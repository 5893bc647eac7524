import ManagedQueue.Proofs.RecordIndexes

namespace ManagedQueue

namespace Table

variable {κ α : Type} [LE κ] [LT κ] [Std.LawfulOrderLT κ] [Std.IsLinearOrder κ] [DecidableLT κ] [DecidableEq κ]

theorem get?_ofList_of_decided {l : List (κ × α)} {value : κ → α} (h : ∀ e ∈ l, e.2 = value e.1) (k : κ) :
    (ofList l).get? k = if k ∈ l.map (·.1) then some (value k) else none := by
  have hfrom (t : Table κ α) : (l.foldl (fun t e => t.insert e.1 e.2) t).get? k =
      if k ∈ l.map (·.1) then some (value k) else t.get? k := by
    induction l generalizing t with
    | nil => rfl
    | cons e rest ih =>
        rw [List.foldl_cons, ih (fun d hd => h d (.tail _ hd)), get?_insert]
        by_cases hrest : k ∈ rest.map (·.1)
        · simp [hrest]
        · by_cases he : k = e.1
          · rw [if_neg hrest, if_pos he, he, h e (.head _)]
            simp
          · simp [hrest, he]
  exact hfrom ∅

end Table

namespace Lifecycle

open Operation

def side (recorded : List String) (queue : String) : Inconsistency :=
  if queue ∈ recorded then .metadataOnly else .brokerOnly

theorem differences_ascending (recorded topics : List String) :
    ((differences recorded topics).map (·.queue)).Pairwise (· < ·) := by
  unfold differences
  rw [List.map_map]
  exact Table.keys_ascending _

theorem mem_differences {recorded topics : List String} {f : Finding} :
    f ∈ differences recorded topics ↔
      f.state = side recorded f.queue ∧ (f.queue ∈ recorded ↔ f.queue ∉ topics) := by
  let found : List (String × Inconsistency) :=
    (recorded.filter (!topics.contains ·)).map (·, .metadataOnly) ++
      (topics.filter (!recorded.contains ·)).map (·, .brokerOnly)
  -- The side of a queue is decided by its name, so no entry of the list can shadow another.
  have hvalue : ∀ e ∈ found, e.2 = side recorded e.1 := by
    intro e he
    rcases List.mem_append.mp he with he | he
    · obtain ⟨queue, hqueue, rfl⟩ := List.mem_map.mp he
      exact (if_pos (List.mem_filter.mp hqueue).1).symm
    · obtain ⟨queue, hqueue, rfl⟩ := List.mem_map.mp he
      have hunrecorded : queue ∉ recorded := by simpa using (List.mem_filter.mp hqueue).2
      exact (if_neg hunrecorded).symm
  have hkey (queue : String) : queue ∈ found.map (·.1) ↔ (queue ∈ recorded ↔ queue ∉ topics) := by
    by_cases hrecorded : queue ∈ recorded <;> by_cases htopic : queue ∈ topics <;>
      simp [found, hrecorded, htopic]
  have hentry : f ∈ differences recorded topics ↔ (f.queue, f.state) ∈ (Table.ofList found).entries := by
    unfold differences
    refine List.mem_map.trans ⟨?_, fun h => ⟨_, h, rfl⟩⟩
    rintro ⟨e, he, rfl⟩
    exact he
  rw [hentry, ← Table.get?_eq_some_iff, Table.get?_ofList_of_decided hvalue]
  split
  · next h => simp [(hkey f.queue).mp h, eq_comm]
  · next h => simp [mt (hkey f.queue).mpr h]

def warning (f : Finding) : LogRecord :=
  ⟨.warn, .lifecycle, s!"queue '{f.queue}' is inconsistent: {f.state.name}"⟩

theorem warnAll_run (fs : List Finding) (s : Site) :
    warnAll fs s = (.ok (), { s with journal := s.journal ++ fs.map warning }) := by
  induction fs generalizing s with
  | nil =>
      rw [List.map_nil, List.append_nil]
      rfl
  | cons f rest ih =>
      have hnote : Operation.note .warn .lifecycle s!"queue '{f.queue}' is inconsistent: {f.state.name}" s =
          (.ok (), { s with journal := s.journal ++ [warning f] }) := rfl
      unfold warnAll
      rw [bind_of_ok hnote, ih]
      simp

/-- The audit sees the table of topics itself, and of the records their index. -/
theorem audit_run {s : Site} (htopics : s.struck .listTopics = none) (hindex : s.struck .queueMap = none) :
    let fs := differences (queueIndex s).keys s.backend.registry.topics.keys
    ∃ t, audit s = (.ok fs, t) ∧ t.backend = { s.backend with registry := s.backend.registry.refresh } ∧
      t.journal = s.journal ++ fs.map warning := by
  intro fs
  let listed : Site := (Site.listTopics true (s.counted .listTopics)).2
  have hlist : ask .listTopics (.collaborator "AuditQueues" "*" none) (Site.listTopics true) s =
      (.ok s.backend.registry.topics.keys, listed) := by
    rw [ask_run, htopics]
    rfl
  have hmap : queueMap (.collaborator "AuditQueues" "*" none) listed =
      (.ok (queueIndex s), listed.counted .queueMap) := by
    -- Listing the topics uses up no fault of the index.
    have hstruck : listed.struck .queueMap = none :=
      (Site.struck_counted (c := .listTopics) (by decide)).trans hindex
    unfold queueMap
    rw [ask_run, hstruck]
    rfl
  refine ⟨(warnAll fs (listed.counted .queueMap)).2, ?_, ?_, ?_⟩
  · unfold audit
    rw [bind_of_ok hlist, bind_of_ok hmap, bind_of_ok (warnAll_run fs _), warnAll_run]
    rfl
  · rw [warnAll_run]
    rfl
  · rw [warnAll_run]
    rfl

end Lifecycle

theorem Operation.mem_queueIndex_keys {s : Site} (hdrift : ∀ e ∈ s.drift, s.backend.metadata.exist e.1)
    (queue : String) : queue ∈ (queueIndex s).keys ↔ s.backend.metadata.exist queue := by
  have hgathered : queueIndex s = Metadata.gathered s.drift s.backend.metadata.queueMap := rfl
  have hrecorded : s.backend.metadata.queueMap.contains queue = s.backend.metadata.exist queue := by
    unfold Metadata.queueMap Metadata.exist Table.contains
    rw [Table.get?_mapValues, Option.isSome_map]
  rw [← Table.contains_iff_mem_keys, hgathered, Metadata.contains_gathered, hrecorded, Bool.or_eq_true]
  refine or_iff_left_of_imp fun hany => ?_
  obtain ⟨e, he, hqueue⟩ := List.any_eq_true.mp hany
  exact of_decide_eq_true hqueue ▸ hdrift e he

namespace Host

open Lifecycle

/-- In any state, whatever the registry has cached: an audit that no planned failure meets finds exactly
the queues that one store has and the other lacks, and says which store that is. -/
theorem audit_exact (h : Host) (htopics : h.site.struck .listTopics = none)
    (hindex : h.site.struck .queueMap = none)
    (hdrift : ∀ e ∈ h.site.drift, h.site.backend.metadata.exist e.1) :
    let b := h.site.backend
    ∃ fs, (step (.request .audit) h).1 = .outcome (.ready (.ok (.findings fs))) ∧
      (fs.map (·.queue)).Pairwise (· < ·) ∧
      (∀ queue, ⟨queue, .metadataOnly⟩ ∈ fs ↔
        b.metadata.exist queue ∧ ¬ b.registry.topics.contains queue) ∧
      (∀ queue, ⟨queue, .brokerOnly⟩ ∈ fs ↔
        b.registry.topics.contains queue ∧ ¬ b.metadata.exist queue) ∧
      let h' := (step (.request .audit) h).2
      h'.service = h.service ∧
        h'.site.backend = { b with registry := b.registry.refresh } ∧
        h'.site.journal = h.site.journal ++ fs.map fun f =>
          ⟨.warn, .lifecycle, s!"queue '{f.queue}' is inconsistent: {f.state.name}"⟩ := by
  intro b
  let fs := differences (Operation.queueIndex h.site).keys b.registry.topics.keys
  obtain ⟨t, hrun, hbackend, hjournal⟩ := audit_run htopics hindex
  have hstep : step (.request .audit) h = (.outcome (.ready (.ok (.findings fs))), { h with site := t }) := by
    change (Reply.outcome (.ready ((audit h.site).1.map .findings)), { h with site := (audit h.site).2 }) = _
    rw [hrun]
    rfl
  have hrecorded := Operation.mem_queueIndex_keys hdrift
  have htopic (queue : String) : queue ∈ b.registry.topics.keys ↔ b.registry.topics.contains queue :=
    (Table.contains_iff_mem_keys _ _).symm
  rw [hstep]
  refine ⟨fs, rfl, differences_ascending _ _, fun queue => ?_, fun queue => ?_, rfl, hbackend, hjournal⟩
  · rw [mem_differences]
    simp only [side, hrecorded, htopic]
    cases b.metadata.exist queue <;> cases b.registry.topics.contains queue <;> simp
  · rw [mem_differences]
    simp only [side, hrecorded, htopic]
    cases b.metadata.exist queue <;> cases b.registry.topics.contains queue <;> simp

/-- A queue in both stores, one whose topic was deleted past the service, and a topic without a record
that the registry has not listed yet. -/
theorem audit_exact_of_three :
    let es : List Event := [.request (.createQueue "a"), .request (.createQueue "b"),
      .direct (.deleteTopic "b"), .direct (.createTopic "c" ⟨4, 2⟩)]
    let h := (steps es ⟨{}, { settings := ⟨["b"], "zk", 4, 2⟩ }⟩).2
    ∃ fs, (step (.request .audit) h).1 = .outcome (.ready (.ok (.findings fs))) ∧
      ⟨"b", .metadataOnly⟩ ∈ fs ∧ ⟨"c", .brokerOnly⟩ ∈ fs := by
  intro es h
  obtain ⟨fs, hanswer, -, hmetadata, hbroker, -⟩ :=
    audit_exact h (by decide +kernel) (by decide +kernel) (by decide +kernel)
  refine ⟨fs, hanswer, (hmetadata "b").mpr ?_, (hbroker "c").mpr ?_⟩
  · decide +kernel
  · decide +kernel

end Host

end ManagedQueue
