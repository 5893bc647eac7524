import ManagedQueue.Proofs.Buckets
import ManagedQueue.Proofs.CountedEvents

namespace ManagedQueue

/-- The tally belongs to the group, or to the queue if no group is given. -/
def Tally.isOf (direction : Direction) (queue group : String) (t : Tally) : Bool :=
  t.direction = direction ∧ t.queue = queue ∧ (group.isEmpty ∨ t.group = group)

/-- How many of the tallies belong to the group and have their time in the span. -/
def occurrences (H : List Tally) (direction : Direction) (queue group : String) (start stop : Int) : Nat :=
  Cuts.countIn (fun t : Tally => t.event.time.toInt) (H.filter (·.isOf direction queue group)) start stop

namespace Metrics

def listed (groups : NameMap Counters) (direction : Direction) (group : String) : List CountedEvent :=
  (groups.filterKeys fun name => group.isEmpty || name = group).entries.flatMap
    fun e => e.2.events direction

theorem listed_perm_of_get? {groups : NameMap Counters} {name : String} {c : Counters}
    (h : groups.get? name = some c) (direction : Direction) (group : String) :
    (listed groups direction group).Perm
      ((if group.isEmpty || name = group then c.events direction else []) ++
        listed (groups.erase name) direction group) := by
  have hentries := Table.entries_insert_perm groups name c
  rw [Table.insert_of_get? h] at hentries
  have hfiltered := hentries.filter fun e => group.isEmpty || decide (e.1 = group)
  refine (hfiltered.flatMap_right fun e => e.2.events direction).trans (.of_eq ?_)
  rw [List.filter_cons]
  split
  · rfl
  · rfl

theorem listed_perm (groups : NameMap Counters) (name : String) (direction : Direction) (group : String) :
    (listed groups direction group).Perm
      ((if group.isEmpty || name = group then ((groups.get? name).getD {}).events direction else []) ++
        listed (groups.erase name) direction group) := by
  cases h : groups.get? name with
  | some c => exact listed_perm_of_get? h direction group
  | none =>
      have hsame : groups.erase name = groups := by
        apply Table.ext_get?
        intro k
        rw [Table.get?_erase]
        split
        · next hk => rw [hk, h]
        · rfl
      have hempty : (({} : Counters).events direction) = [] := by cases direction <;> rfl
      rw [hsame, Option.getD_none, hempty, ite_self]
      exact .refl _

theorem counters_eq (m : Metrics) (queue group : String) :
    m.counters queue group = ((m.queues.getD queue ∅).get? group).getD {} := by
  unfold counters Table.getD
  cases m.queues.get? queue <;> rfl

theorem events_add (c : Counters) (direction added : Direction) (e : CountedEvent) :
    (c.add added e).events direction = c.events direction ++ if added = direction then [e] else [] := by
  cases direction <;> cases added <;> simp [Counters.add, Counters.events]

theorem events_record (m : Metrics) (t : Tally) (direction : Direction) (queue group : String) :
    ((m.record t.direction t.queue t.group t.event).events direction queue group).Perm
      (m.events direction queue group ++ if t.isOf direction queue group then [t.event] else []) := by
  have hafter : (m.record t.direction t.queue t.group t.event).events direction queue group =
      listed ((m.record t.direction t.queue t.group t.event).queues.getD queue ∅) direction group := rfl
  have hbefore : m.events direction queue group = listed (m.queues.getD queue ∅) direction group := rfl
  rw [hafter, hbefore]
  unfold record
  dsimp only
  rw [Table.getD, Table.get?_insert]
  by_cases hqueue : queue = t.queue
  · subst hqueue
    rw [if_pos rfl, Option.getD_some, counters_eq]
    refine (listed_perm_of_get? (Table.get?_insert_self _ _ _) direction group).trans ?_
    rw [Table.erase_insert, events_add]
    -- The other groups' events stand after those of this one, so its new event is moved past them.
    have hrest := listed_perm (m.queues.getD t.queue ∅) t.group direction group
    have hof : t.isOf direction t.queue group =
        (decide (t.direction = direction) && (group.isEmpty || decide (t.group = group))) := by
      rw [Bool.eq_iff_iff]
      simp [Tally.isOf]
    rw [hof]
    cases hgroup : group.isEmpty || decide (t.group = group) with
    | false =>
        rw [hgroup] at hrest
        simpa using hrest.symm
    | true =>
        rw [hgroup] at hrest
        simp only [if_true, Bool.and_true, decide_eq_true_eq] at hrest ⊢
        refine .trans ?_ (hrest.symm.append_right _)
        rw [List.append_assoc, List.append_assoc]
        exact List.perm_append_comm.append_left _
  · have hother : t.isOf direction queue group = false := by simp [Tally.isOf, Ne.symm hqueue]
    rw [if_neg hqueue, hother]
    simp [Table.getD]

theorem events_recordAll (m : Metrics) (H : List Tally) (direction : Direction) (queue group : String) :
    ((m.recordAll H).events direction queue group).Perm
      (m.events direction queue group ++ (H.filter (·.isOf direction queue group)).map (·.event)) := by
  induction H generalizing m with
  | nil => simp [recordAll]
  | cons t H ih =>
      refine (ih (m.record t.direction t.queue t.group t.event)).trans ?_
      refine ((m.events_record t direction queue group).append_right _).trans (.of_eq ?_)
      rw [List.append_assoc, List.filter_cons]
      split
      · rfl
      · rfl

theorem sumCounts_ones {counts : List UInt64} (h : ∀ c ∈ counts, c = 1) :
    sumCounts counts = UInt64.ofNat counts.length := by
  have hfrom (k : Nat) : counts.foldl (· + ·) (UInt64.ofNat k) = UInt64.ofNat (k + counts.length) := by
    induction counts generalizing k with
    | nil => rfl
    | cons c rest ih =>
        have hone : UInt64.ofNat k + c = UInt64.ofNat (k + 1) := by
          rw [h c (.head _), UInt64.ofNat_add]
          rfl
        rw [List.foldl_cons, hone, ih fun d hd => h d (.tail _ hd), List.length_cons]
        congr 1
        omega
  simpa [sumCounts] using hfrom 0

theorem sumCounts_ofNat (ns : List Nat) : sumCounts (ns.map UInt64.ofNat) = UInt64.ofNat ns.sum := by
  have hfrom (k : Nat) : (ns.map UInt64.ofNat).foldl (· + ·) (UInt64.ofNat k) = UInt64.ofNat (k + ns.sum) := by
    induction ns generalizing k with
    | nil => rfl
    | cons n rest ih =>
        rw [List.map_cons, List.foldl_cons, ← UInt64.ofNat_add, ih, List.sum_cons, Nat.add_assoc]
  simpa [sumCounts] using hfrom 0

variable {H : List Tally} {direction : Direction} {queue group : String}

theorem countIn_occurrences (hones : ∀ t ∈ H, t.event.count = 1) (bounds : Int64 × Int64) :
    (countIn ((Metrics.recordAll {} H).events direction queue group) bounds).count =
      UInt64.ofNat (occurrences H direction queue group bounds.1.toInt bounds.2.toInt) := by
  have hperm := events_recordAll {} H direction queue group
  have hempty : ({} : Metrics).events direction queue group = [] := rfl
  rw [hempty, List.nil_append] at hperm
  have hevents : ∀ e ∈ (Metrics.recordAll {} H).events direction queue group, e.count = 1 := by
    intro e he
    obtain ⟨t, ht, rfl⟩ := List.mem_map.mp (hperm.mem_iff.mp he)
    exact hones t (List.mem_of_mem_filter ht)
  unfold countIn
  dsimp only
  rw [sumCounts_ones fun c hc => ?_]
  · rw [List.length_map, ← List.countP_eq_length_filter, hperm.countP_eq, List.countP_map]
    simp [occurrences, Cuts.countIn, Int64.le_iff_toInt_le, Int64.lt_iff_toInt_lt, Function.comp_def]
  · obtain ⟨e, he, rfl⟩ := List.mem_map.mp hc
    exact hevents e (List.mem_of_mem_filter he)

/-- A valid query counts each bucket, and in all of them together what the window spans. -/
theorem query_occurrences {w : Window} (hw : w.fault? = none) (hones : ∀ t ∈ H, t.event.count = 1) :
    ∃ s, (Metrics.recordAll {} H).query direction queue group w = some s ∧
      s.buckets.map (fun b => (b.start, b.stop)) = w.bounds ∧
      (∀ b ∈ s.buckets, b.count =
        UInt64.ofNat (occurrences H direction queue group b.start.toInt b.stop.toInt)) ∧
      s.total = UInt64.ofNat (occurrences H direction queue group w.start.toInt w.stop.toInt) := by
  let events := (Metrics.recordAll {} H).events direction queue group
  refine ⟨⟨queue, group, direction, w.bounds.map (countIn events)⟩, query_of_valid _ _ _ _ hw, ?_, ?_, ?_⟩
  · rw [List.map_map]
    exact List.map_id _
  · intro b hb
    obtain ⟨bounds, -, rfl⟩ := List.mem_map.mp hb
    exact countIn_occurrences hones bounds
  -- The buckets adjoin, so the counts of the parts add up to that of the whole.
  · have hcounts : (w.bounds.map (countIn events)).map (·.count) = ((List.range w.buckets.toNat).map
        fun i => occurrences H direction queue group (w.cut i) (w.cut (i + 1))).map UInt64.ofNat := by
      rw [Window.bounds, List.map_map, List.map_map, List.map_map]
      apply List.map_congr_left
      intro i hi
      obtain ⟨hstart, hstop⟩ := Window.bucket_toInt hw (List.mem_range.mp hi)
      change (countIn events (w.bucket i)).count = _
      rw [countIn_occurrences hones, hstart, hstop]
      rfl
    change sumCounts ((w.bounds.map (countIn events)).map (·.count)) = _
    rw [hcounts, sumCounts_ofNat]
    unfold occurrences
    rw [(Window.cut_rising hw).sum_countIn, Window.cut_zero hw, Window.cut_last]

end Metrics

open Operation

namespace Volume

variable {direction : Direction} {queue group : String} {w : Window}

/-- How a query of the volume ends. The recorder is asked only for windows that it does not refuse. -/
inductive Asks (direction : Direction) (queue group : String) (w : Window) (s : Site) :
    Except ServiceError Series → Prop
  | refused (message)
      (h : ¬ (nameFault? queue = none ∧ (group.isEmpty ∨ nameFault? group = none) ∧ w.fault? = none)) :
      Asks direction queue group w s (.error (.invalidArgument message))
  | struck (c context e) (hc : c = .existTopic ∨ c = .query) (he : s.struck c = some e) :
      Asks direction queue group w s
        (.error (.collaborator (operationName direction) queue context e))
  | missing (h : s.backend.registry.topics.contains queue = false) :
      Asks direction queue group w s (.error (.notFound (operationName direction) queue none))
  | counted (series) (h : s.backend.metrics.query direction queue group w = some series) :
      Asks direction queue group w s (.ok series)

theorem Asks.of_glance {s t : Site} (hw : w.fault? = none) (ht : s.Glance t)
    (hstruck : t.struck .query = s.struck .query) (context : Option String) :
    Asks direction queue group w s (Operation.call .query (.collaborator (operationName direction) queue context)
      (Site.query direction queue group w) t).1 := by
  rw [call_run, attempt_run, hstruck]
  cases he : s.struck .query with
  | some e => exact .struck .query context e (.inr rfl) he
  | none =>
      have hseries := Metrics.query_of_valid s.backend.metrics direction queue group hw
      unfold Site.query
      simp only [bind_apply, get_apply, Site.counted_backend, ht.metrics, hseries]
      exact .counted _ hseries

theorem query_asks (direction : Direction) (queue group : String) (w : Window) (s : Site) :
    Asks direction queue group w s (query direction queue group w s).1 := by
  unfold query
  extract_lets context afterNames
  cases hqueue : nameFault? queue with
  | some fault =>
      rw [bind_of_error (requireName_of_some hqueue s)]
      exact .refused _ fun h => by simp [hqueue] at h
  | none =>
      rw [bind_of_ok (requireName_of_none hqueue s)]
      -- The group is only looked at if there is one. What follows is the same in both cases.
      have hrest : Asks direction queue group w s (afterNames () s).1 := by
        change Asks direction queue group w s ((requireWindow w >>= _) s).1
        cases hw : w.fault? with
        | some fault =>
            rw [bind_of_error (requireWindow_of_some hw s)]
            exact .refused _ fun h => by simp [hw] at h
        | none =>
            rw [bind_of_ok (requireWindow_of_none hw s)]
            obtain ⟨e, he, hr⟩ | ⟨t, ht, hstruck, hr⟩ := requireTopic_cases (operationName direction) queue s
            · rw [bind_of_error hr]
              exact .struck .existTopic none e (.inl rfl) he
            · rw [bind_run, hr]
              cases hlive : s.backend.registry.topics.contains queue with
              | false => exact .missing hlive
              | true =>
                  simp only [if_true]
                  rw [answer_of_noted]
                  exact .of_glance hw ht (hstruck _ (by decide)) context
      split
      · cases hgroup : nameFault? group with
        | some fault =>
            rw [bind_of_error (requireName_of_some hgroup s)]
            exact .refused _ fun h => by simp_all
        | none =>
            rw [bind_of_ok (requireName_of_none hgroup s)]
            exact hrest
      · exact hrest

theorem query_run {s : Site} {series : Series}
    (hqueue : nameFault? queue = none) (hgroup : group.isEmpty ∨ nameFault? group = none)
    (hw : w.fault? = none) (htopic : s.struck .existTopic = none) (hcall : s.struck .query = none)
    (hlive : s.backend.registry.topics.contains queue)
    (hseries : s.backend.metrics.query direction queue group w = some series) :
    (query direction queue group w s).1 = .ok series := by
  have hasks := query_asks direction queue group w s
  generalize (query direction queue group w s).1 = answer at hasks ⊢
  cases hasks with
  | refused message h => exact absurd ⟨hqueue, hgroup, hw⟩ h
  | struck c context e hc he =>
      rcases hc with rfl | rfl
      · rw [htopic] at he
        cases he
      · rw [hcall] at he
        cases he
  | missing h =>
      rw [hlive] at h
      cases h
  | counted found h =>
      rw [hseries] at h
      cases h
      rfl

end Volume

namespace Host

variable {e : Event} {h : Host}

theorem mem_chronicle {α : Type} {f : Event → Host → List α} {es : List Event} {x : α}
    (hx : x ∈ chronicle f es h) : ∃ e ∈ es, ∃ g, x ∈ f e g := by
  induction es generalizing h with
  | nil => cases hx
  | cons e es ih =>
      rcases List.mem_append.mp hx with hx | hx
      · exact ⟨e, .head _, h, hx⟩
      · obtain ⟨e', he, hg⟩ := ih hx
        exact ⟨e', .tail _ he, hg⟩

theorem tallies_ones (he : ∀ direction queue group count, e ≠ .direct (.record direction queue group count)) :
    ∀ t ∈ tallies e h, t.event.count = 1 := by
  unfold tallies
  split
  · simp
  · simp
  · simp
  · intro t ht
    obtain ⟨r, -, rfl⟩ := List.mem_map.mp ht
    rfl
  · exact absurd rfl (he _ _ _ _)
  · simp

structure Queryable (h : Host) (queue group : String) : Prop where
  queueNamed : nameFault? queue = none
  groupNamed : group.isEmpty ∨ nameFault? group = none
  live : h.site.backend.registry.topics.contains queue
  topic : h.site.struck .existTopic = none
  call : h.site.struck .query = none

def Counts (h : Host) (direction : Direction) (queue group : String) (w : Window) (s : Series) : Prop :=
  (step (.request (.volume direction queue group w)) h).1 = .outcome (.ready (.ok (.series s)))

theorem counts_of_query {direction : Direction} {queue group : String} {w : Window} {s : Series}
    (hq : h.Queryable queue group) (hw : w.fault? = none)
    (hs : h.site.backend.metrics.query direction queue group w = some s) :
    h.Counts direction queue group w s := by
  have hrun := Volume.query_run hq.queueNamed hq.groupNamed hw hq.topic hq.call hq.live hs
  change Reply.outcome (.ready ((Volume.query direction queue group w h.site).1.map .series)) = _
  rw [hrun]
  rfl

/-- In every run in which only the service records, with any failures and clocks: a query of a queue
with a topic counts in each bucket the messages that the group sent or received while the clock stood
in it, or all groups if none is given. Every time of the window is in one bucket and in no other, so the
buckets count the messages of the window, and the counts of adjoining windows add up. -/
theorem volume_counts (settings : Settings) (site : Site) (es : List Event)
    (hpast : ∀ direction queue group count, .direct (.record direction queue group count) ∉ es) :
    let start : Host := ⟨{ site with backend := { site.backend with metrics := {} } }, { settings }⟩
    let H := chronicle tallies es start
    let h := (steps es start).2
    (∀ direction queue group w, h.Queryable queue group → w.fault? = none →
      ∃ s, h.Counts direction queue group w s ∧
        s.buckets.map (fun b => (b.start, b.stop)) = w.bounds ∧
        (∀ b ∈ s.buckets, b.count =
          UInt64.ofNat (occurrences H direction queue group b.start.toInt b.stop.toInt)) ∧
        s.total = UInt64.ofNat (occurrences H direction queue group w.start.toInt w.stop.toInt)) ∧
    (∀ (w : Window) (t : Int64), w.fault? = none → w.start ≤ t → t < w.stop →
      ∃! i : Nat, ∃ b : Int64 × Int64, w.bounds[i]? = some b ∧ b.1 ≤ t ∧ t < b.2) ∧
    ∀ direction queue group (u v w : Window), h.Queryable queue group →
      u.fault? = none → v.fault? = none → w.fault? = none →
      u.start = w.start → u.stop = v.start → v.stop = w.stop →
      ∃ a b c, h.Counts direction queue group u a ∧ h.Counts direction queue group v b ∧
        h.Counts direction queue group w c ∧ a.total + b.total = c.total := by
  intro start H h
  have hones : ∀ t ∈ H, t.event.count = 1 := by
    intro t ht
    obtain ⟨e, he, g, hg⟩ := mem_chronicle ht
    exact tallies_ones (fun _ _ _ _ hrecord => hpast _ _ _ _ (hrecord ▸ he)) t hg
  have hmetrics : h.site.backend.metrics = Metrics.recordAll {} H := steps_metrics es start
  have hcounts (direction : Direction) (queue group : String) (w : Window) (hq : h.Queryable queue group)
      (hw : w.fault? = none) : ∃ s, h.Counts direction queue group w s ∧
        s.buckets.map (fun b => (b.start, b.stop)) = w.bounds ∧
        (∀ b ∈ s.buckets, b.count =
          UInt64.ofNat (occurrences H direction queue group b.start.toInt b.stop.toInt)) ∧
        s.total = UInt64.ofNat (occurrences H direction queue group w.start.toInt w.stop.toInt) := by
    obtain ⟨s, hs, hrest⟩ : ∃ s, (Metrics.recordAll {} H).query direction queue group w = some s ∧ _ :=
      Metrics.query_occurrences hw hones
    exact ⟨s, counts_of_query hq hw (hmetrics ▸ hs), hrest⟩
  refine ⟨hcounts, fun w t hw => Window.bounds_existsUnique hw,
    fun direction queue group u v w hq hu hv hw hstart hmiddle hstop => ?_⟩
  obtain ⟨a, ha, -, -, hatotal⟩ := hcounts direction queue group u hq hu
  obtain ⟨b, hb, -, -, hbtotal⟩ := hcounts direction queue group v hq hv
  obtain ⟨c, hc, -, -, hctotal⟩ := hcounts direction queue group w hq hw
  refine ⟨a, b, c, ha, hb, hc, ?_⟩
  -- The first two windows cut the third in two.
  have hfirst := (Window.proper_of_valid hu).1
  have hsecond := (Window.proper_of_valid hv).1
  rw [hatotal, hbtotal, hctotal, ← UInt64.ofNat_add, ← hstart, ← hstop, hmiddle]
  rw [hmiddle] at hfirst
  unfold occurrences
  rw [Cuts.countIn_add _ _ (Int.le_of_lt hfirst) (Int.le_of_lt hsecond)]

/-- Two messages, the second of which falls out of the window. -/
theorem volume_counts_two_sends :
    let es : List Event := [.request (.createQueue "q"), .request (.send "q" "g" [1]),
      .condition (.clock 10), .request (.send "q" "g" [2])]
    let h := (steps es ⟨{}, { settings := ⟨["b"], "zk", 4, 2⟩ }⟩).2
    ∃ s, h.Counts .send "q" "" ⟨0, 10, 3⟩ s ∧ s.total = 1 := by
  intro es h
  have hq : h.Queryable "q" "" := by
    constructor <;> decide +kernel
  obtain ⟨s, hs, -, -, htotal⟩ := (volume_counts ⟨["b"], "zk", 4, 2⟩ {} es (by simp [es])).1 .send "q" ""
    ⟨0, 10, 3⟩ hq (by decide)
  refine ⟨s, hs, htotal.trans ?_⟩
  decide +kernel

end Host

end ManagedQueue
