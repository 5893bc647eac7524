import Mathlib.Data.List.Sort
import ManagedQueue.Proofs.RecordViews

namespace ManagedQueue

section Keys

variable {ι κ : Type} {find : ι → Option κ} {known unknown : List ι}

theorem filterMap_with_unknown (hunknown : ∀ k ∈ unknown, find k = none) :
    (known ++ unknown).filterMap find = known.filterMap find := by
  rw [List.filterMap_append, List.filterMap_eq_nil_iff.mpr hunknown, List.append_nil]

theorem filter_isNone_with_unknown (hknown : ∀ k ∈ known, (find k).isSome)
    (hunknown : ∀ k ∈ unknown, find k = none) :
    (known ++ unknown).filter (fun k => (find k).isNone) = unknown := by
  have hfirst : known.filter (fun k => (find k).isNone) = [] :=
    List.filter_eq_nil_iff.mpr fun k hk => by simp [Option.isSome_iff_ne_none.mp (hknown k hk)]
  have hrest : unknown.filter (fun k => (find k).isNone) = unknown :=
    List.filter_eq_self.mpr fun k hk => by simp [hunknown k hk]
  rw [List.filter_append, hfirst, hrest, List.nil_append]

variable [DecidableEq κ]

section Parts

variable {γ β : Type} (key : ι → κ) (part : ι → γ)

theorem forall_of_key {p : κ → γ → Prop} {l : List ι} (h : ∀ a ∈ l, p (key a) (part a)) (k : κ) :
    ∀ c ∈ (l.filter (key · = k)).map part, p k c := by
  intro c hc
  obtain ⟨a, ha, rfl⟩ := List.mem_map.mp hc
  obtain ⟨hmem, hkey⟩ := List.mem_filter.mp ha
  rw [← of_decide_eq_true hkey]
  exact h a hmem

theorem map_of_key (make : κ → γ → β) (l : List ι) (k : κ) :
    ((l.filter (key · = k)).map part).map (make k) =
      (l.filter (key · = k)).map fun a => make (key a) (part a) := by
  rw [List.map_map]
  refine List.map_congr_left fun a ha => ?_
  rw [Function.comp_apply, of_decide_eq_true (List.mem_filter.mp ha).2]

end Parts

/-- Taking a list apart by its keys, and putting the parts one after the other, leaves out only what has
none of the keys. -/
theorem flatMap_filter_perm (key : ι → κ) {keys : List κ} (hkeys : keys.Nodup) (l : List ι) :
    (keys.flatMap fun k => l.filter (key · = k)).Perm (l.filter (key · ∈ keys)) := by
  induction keys with
  | nil => simp
  | cons k rest ih =>
      obtain ⟨hk, hrest⟩ := List.nodup_cons.mp hkeys
      have hfirst : (l.filter (key · ∈ k :: rest)).filter (key · = k) = l.filter (key · = k) := by
        rw [List.filter_filter]
        exact List.filter_congr fun a _ => by by_cases ha : key a = k <;> simp [ha]
      have hothers : (l.filter (key · ∈ k :: rest)).filter (fun a => !decide (key a = k)) =
          l.filter (key · ∈ rest) := by
        rw [List.filter_filter]
        refine List.filter_congr fun a _ => ?_
        by_cases ha : key a = k
        · simp [ha, hk]
        · simp [ha]
      have hsplit := List.filter_append_perm (fun a => decide (key a = k)) (l.filter (key · ∈ k :: rest))
      rw [hfirst, hothers] at hsplit
      rw [List.flatMap_cons]
      exact ((ih hrest).append_left _).trans hsplit

end Keys

namespace Site

def metadataReads : List Call := [.existQueue, .queueCreateTime, .queueMap, .groupMap, .groupConfig]

/-- No read of the metadata store is planned to fail. -/
def Answering (s : Site) : Prop := ∀ c ∈ metadataReads, s.faults c = none

/-- The site has these records, and besides them its indexes have these entries. -/
structure Drifted (m : Metadata) (extra : List (String × String)) (s : Site) : Prop where
  metadata : s.backend.metadata = m
  drift : s.drift = extra
  answering : s.Answering

def logging (s : Site) (records : Journal) : Site := { s with journal := s.journal ++ records }

variable {m : Metadata} {extra : List (String × String)} {s : Site}

theorem Drifted.logging (hs : s.Drifted m extra) (records : Journal) : (s.logging records).Drifted m extra :=
  ⟨hs.metadata, hs.drift, hs.answering⟩

@[simp]
theorem logging_nil (s : Site) : s.logging [] = s := by simp [Site.logging]

@[simp]
theorem logging_logging (s : Site) (first later : Journal) :
    (s.logging first).logging later = s.logging (first ++ later) := by
  simp [Site.logging]

end Site

namespace Operation

variable {α β : Type} {m : Metadata} {extra : List (String × String)}

/-- With these records and index entries the operation answers this, logs these records and does nothing
else. -/
def Reports (m : Metadata) (extra : List (String × String)) (x : Operation α) (a : α) (records : Journal) :
    Prop :=
  ∀ s : Site, s.Drifted m extra → x s = (.ok a, s.logging records)

namespace Reports

theorem pure (a : α) : Reports m extra (Pure.pure a) a [] := by
  intro s _
  rw [Site.logging_nil]
  rfl

theorem bind {x : Operation α} {f : α → Operation β} {a : α} {b : β} {first later : Journal}
    (hx : Reports m extra x a first) (hf : Reports m extra (f a) b later) :
    Reports m extra (x >>= f) b (first ++ later) := by
  intro s hs
  rw [bind_of_ok (hx s hs), hf _ (hs.logging first), Site.logging_logging]

theorem map {x : Operation α} {a : α} {records : Journal} (hx : Reports m extra x a records) (f : α → β) :
    Reports m extra (x >>= fun a => Pure.pure (f a)) (f a) records := by
  simpa using hx.bind (f := fun a => Pure.pure (f a)) (.pure (f a))

theorem note (level : Level) (component : Component) (text : String) :
    Reports m extra (Operation.note level component text) () [⟨level, component, text⟩] := fun _ _ => rfl

theorem call {c : Call} (hc : c ∈ Site.metadataReads) (failed : CollaboratorError → ServiceError)
    {task : Task (Except CollaboratorError α)} {a : α}
    (htask : ∀ s : Site, s.Drifted m extra → task s = (.ok a, s)) :
    Reports m extra (call c failed task) a [] := by
  intro s hs
  rw [call_run, attempt_unplanned (hs.answering c hc), htask s hs, Site.logging_nil]

theorem ask {c : Call} (hc : c ∈ Site.metadataReads) (failed : CollaboratorError → ServiceError)
    {f : Site → α} {a : α} (hf : ∀ s : Site, s.Drifted m extra → f s = a) :
    Reports m extra (ask c failed (return f (← get))) a [] :=
  .call hc failed fun s hs => by
    change (Except.ok (f s), s) = _
    rw [hf s hs]

end Reports

theorem queueRecorded_reports (op queue : String) :
    Reports m extra (queueRecorded op queue) (m.exist queue) [] :=
  .ask (by simp [Site.metadataReads]) _ fun s hs => by rw [hs.metadata]

theorem queueMap_reports (failed : CollaboratorError → ServiceError) :
    Reports m extra (queueMap failed) (Metadata.gathered extra m.queueMap) [] :=
  .ask (by simp [Site.metadataReads]) _ fun s hs => by rw [queueIndex, hs.metadata, hs.drift]; rfl

theorem groupMap_reports (failed : CollaboratorError → ServiceError) :
    Reports m extra (groupMap failed) (Metadata.gathered (extra.map Prod.swap) m.groupMap) [] :=
  .ask (by simp [Site.metadataReads]) _ fun s hs => by
    rw [groupIndex, hs.metadata, hs.drift, Metadata.gathered, List.foldl_map]
    rfl

theorem groupConfig_reports (op group queue : String) :
    Reports m extra (groupConfig op group queue) (m.record? group queue) [] :=
  .ask (by simp [Site.metadataReads]) _ fun s hs => by rw [hs.metadata]

end Operation

open Operation

variable {m : Metadata} {extra : List (String × String)}

/-- The entries are of recorded queues, and no record stands behind any of them. -/
def Metadata.Lacks (m : Metadata) (extra : List (String × String)) : Prop :=
  ∀ e ∈ extra, m.exist e.1 ∧ m.record? e.2 e.1 = none

theorem Metadata.Lacks.of_queue (hextra : m.Lacks extra) {queue : String} (hqueue : m.queues.get? queue = none) :
    extra.filter (·.1 = queue) = [] := by
  refine List.filter_eq_nil_iff.mpr fun e he hsame => ?_
  have hexist := (hextra e he).1
  rw [of_decide_eq_true hsame, Metadata.exist, Table.contains, hqueue] at hexist
  cases hexist

namespace Lifecycle

/-- What is logged of an entry, queue and group, that no record stands behind. -/
def missing (e : String × String) : LogRecord :=
  ⟨.warn, .lifecycle, s!"config is missing for queue '{e.1}', group '{e.2}'"⟩

theorem groupConfigs_reports (op queue : String) (groups : List String) :
    Reports m extra (groupConfigs op queue groups)
      (groups.filterMap fun group => (m.record? group queue).map (·.underQueue))
      ((groups.filter fun group => (m.record? group queue).isNone).map fun group => missing (queue, group)) := by
  induction groups with
  | nil => exact .pure _
  | cons group groups ih =>
      have hfound : Reports m extra _ _ _ := groupConfig_reports op group queue
      rw [List.filterMap_cons, List.filter_cons]
      cases hrecord : m.record? group queue with
      | some record =>
          rw [hrecord] at hfound
          exact .bind hfound (.map ih _)
      | none =>
          rw [hrecord] at hfound
          exact .bind hfound (.bind (.note _ _ _) ih)

def listed (extra : List (String × String)) (e : String × QueueEntry) : List String :=
  e.2.groups.keys ++ (extra.filter (·.1 = e.1)).map (·.2)

theorem listed_reports (hextra : m.Lacks extra) (op : String) {e : String × QueueEntry}
    (hentry : m.queues.get? e.1 = some e.2) : Reports m extra (groupConfigs op e.1 (listed extra e))
      (Metadata.queueInfo e.1 e.2).groups ((extra.filter (·.1 = e.1)).map missing) := by
  have hknown : ∀ group ∈ e.2.groups.keys, (m.record? group e.1).isSome := by
    intro group hgroup
    rw [Metadata.record?_of_entry hentry]
    exact (e.2.groups.contains_iff_mem_keys group).mpr hgroup
  have hunknown : ∀ group ∈ (extra.filter (·.1 = e.1)).map (·.2), m.record? group e.1 = none :=
    forall_of_key (p := fun queue group => m.record? group queue = none) (·.1) (·.2)
      (fun e he => (hextra e he).2) e.1
  have hmissing : ((extra.filter (·.1 = e.1)).map (·.2)).map (fun group => missing (e.1, group)) =
      (extra.filter (·.1 = e.1)).map missing :=
    map_of_key (·.1) (·.2) (fun queue group => missing (queue, group)) extra e.1
  have hrun : Reports m extra _ _ _ := groupConfigs_reports op e.1 (listed extra e)
  rwa [listed, filterMap_with_unknown fun group hgroup => by rw [hunknown group hgroup, Option.map_none],
    configs_of_keys hentry, filter_isNone_with_unknown hknown hunknown, hmissing] at hrun

theorem queueInfo_reports (op : String) {queue : String} {entry : QueueEntry}
    (hentry : m.queues.get? queue = some entry) (groups : List GroupConfig) :
    Reports m extra (queueInfo op queue groups) { queue, ctime := entry.ctime, length := 0, groups } [] := by
  refine .map (.call (by simp [Site.metadataReads]) _ fun s hs => ?_) _
  change (s.backend.metadata.createTime queue, s) = _
  rw [hs.metadata, Metadata.createTime, hentry]

theorem queueInfos_reports (hextra : m.Lacks extra) (op : String) (entries : List (String × QueueEntry))
    (hentries : ∀ e ∈ entries, m.queues.get? e.1 = some e.2) :
    Reports m extra (queueInfos op (entries.map fun e => (e.1, listed extra e)))
      (entries.map fun e => Metadata.queueInfo e.1 e.2)
      (entries.flatMap fun e => (extra.filter (·.1 = e.1)).map missing) := by
  induction entries with
  | nil => exact .pure _
  | cons e rest ih =>
      have hentry := hentries e (.head _)
      have hrest := ih fun a ha => hentries a (.tail _ ha)
      exact .bind (listed_reports hextra op hentry) (.bind (queueInfo_reports op hentry _) (.map hrest _))

theorem gathered_queueMap (hextra : m.Lacks extra) :
    Metadata.gathered extra m.queueMap = m.queues.mapValues fun queue entry => listed extra (queue, entry) := by
  apply Table.ext_get?
  intro queue
  have hindex : m.queueMap.get? queue = (m.queues.get? queue).map fun e => e.groups.keys :=
    Table.get?_mapValues _ _ _
  rw [Table.get?_of_contains _ queue [], Metadata.contains_gathered, Metadata.getD_gathered, Table.contains,
    Table.getD, hindex, Table.get?_mapValues]
  cases hentry : m.queues.get? queue with
  | none =>
      have hnone : extra.any (·.1 = queue) = false :=
        List.any_eq_false.mpr (List.filter_eq_nil_iff.mp (hextra.of_queue hentry))
      rw [hnone]
      rfl
  | some entry => rfl

def looked (queue group : String) : LogRecord :=
  ⟨.debug, .lifecycle, s!"lookup queue='{queue}' group='{group}'"⟩

def met (queue group : String) (extra : List (String × String)) : List (String × String) :=
  extra.filter fun e => queue = "" ∨ group = "" ∧ e.1 = queue

theorem lookup_all_reports (hextra : m.Lacks extra) (group : String) : ∃ warnings,
    Reports m extra (lookup "" group) m.queueInfos (looked "" group :: warnings) ∧
    warnings.Perm ((met "" group extra).map missing) := by
  have hinfos : Reports m extra _ _ _ := queueInfos_reports hextra "LookupQueue" m.queues.entries fun e he =>
    (m.queues.get?_eq_some_iff e.1 e.2).mpr he
  have hindex : Reports m extra _ _ _ := queueMap_reports (.collaborator "LookupQueue" "*" none)
  rw [gathered_queueMap hextra] at hindex
  refine ⟨_, .bind (.note _ _ _) (.bind hindex hinfos), ?_⟩
  have hpiles : (m.queues.entries.flatMap fun e => (extra.filter (·.1 = e.1)).map missing) =
      (m.queues.keys.flatMap fun queue => extra.filter (·.1 = queue)).map missing := by
    rw [List.map_flatMap, Table.keys, List.flatMap_map]
  have hall : extra.filter (·.1 ∈ m.queues.keys) = met "" group extra := by
    refine List.filter_congr fun e he => ?_
    have hqueue := (m.queues.contains_iff_mem_keys e.1).mp (hextra e he).1
    simp [hqueue]
  rw [List.nil_append, hpiles, ← hall]
  exact (flatMap_filter_perm (·.1) m.queues.keys_nodup extra).map missing

theorem lookup_queue_reports (hextra : m.Lacks extra) {queue : String} (hqueue : queue ≠ "") :
    Reports m extra (lookup queue "") (m.queueInfos.filter (·.queue = queue))
      (looked queue "" :: (met queue "" extra).map missing) := by
  have hmet : met queue "" extra = extra.filter (·.1 = queue) :=
    List.filter_congr fun e _ => by simp [hqueue]
  have hindex : Reports m extra _ _ _ := queueMap_reports (.collaborator "LookupQueue" queue none)
  rw [gathered_queueMap hextra] at hindex
  rw [Metadata.queueInfos_of_queue, hmet]
  refine .bind (.note _ _ _) ?_
  rw [if_neg (by simpa using hqueue), if_pos (show "".isEmpty = true from rfl)]
  refine .bind hindex ?_
  rw [Table.get?_mapValues]
  cases hentry : m.queues.get? queue with
  | none =>
      rw [hextra.of_queue hentry]
      exact .pure _
  | some entry =>
      have hinfos : Reports m extra _ _ _ :=
        queueInfos_reports hextra "LookupQueue" [(queue, entry)] fun e he => by
          rw [List.mem_singleton.mp he]
          exact hentry
      simpa using hinfos

theorem lookup_pair_reports {queue group : String} (hqueue : queue ≠ "") (hgroup : group ≠ "") : ∃ infos,
    ∀ extra, Reports m extra (lookup queue group) infos [looked queue group] := by
  have hlookup : lookup queue group = do
      note .debug .lifecycle s!"lookup queue='{queue}' group='{group}'"
      if ← queueRecorded "LookupQueue" queue then
        let record ← groupConfig "LookupQueue" group queue
        let info ← queueInfo "LookupQueue" queue (record.map (·.underQueue)).toList
        return [info]
      else return [] := by
    unfold lookup
    simp [hqueue, hgroup]
  rw [hlookup]
  cases hentry : m.queues.get? queue with
  | none =>
      refine ⟨[], fun extra => .bind (.note _ _ _) ?_⟩
      have hrecorded : Reports m extra _ _ _ := queueRecorded_reports "LookupQueue" queue
      rw [Metadata.exist, Table.contains, hentry] at hrecorded
      exact .bind hrecorded (.pure _)
  | some entry =>
      let info : QueueInfo := ⟨queue, entry.ctime, 0, ((m.record? group queue).map (·.underQueue)).toList⟩
      refine ⟨[info], fun extra => .bind (.note _ _ _) ?_⟩
      have hrecorded : Reports m extra _ _ _ := queueRecorded_reports "LookupQueue" queue
      rw [Metadata.exist, Table.contains, hentry] at hrecorded
      exact .bind hrecorded (.bind (groupConfig_reports _ _ _) (.map (queueInfo_reports _ hentry _) _))

/-- A look-up answers the same whatever has drifted in, and warns of each entry that it meets. -/
theorem lookup_reports (m : Metadata) (queue group : String) : ∃ infos, ∀ extra, m.Lacks extra →
    ∃ warnings, Reports m extra (lookup queue group) infos (looked queue group :: warnings) ∧
      warnings.Perm ((met queue group extra).map missing) := by
  by_cases hqueue : queue = ""
  · subst hqueue
    exact ⟨_, fun extra hextra => lookup_all_reports hextra group⟩
  by_cases hgroup : group = ""
  · subst hgroup
    exact ⟨_, fun extra hextra => ⟨_, lookup_queue_reports hextra hqueue, .refl _⟩⟩
  · obtain ⟨infos, hinfos⟩ := lookup_pair_reports (m := m) hqueue hgroup
    have hmet (extra : List (String × String)) : met queue group extra = [] :=
      List.filter_eq_nil_iff.mpr fun e _ => by simp [hqueue, hgroup]
    refine ⟨infos, fun extra _ => ⟨[], hinfos extra, ?_⟩⟩
    rw [hmet]
    exact .refl _

end Lifecycle

namespace Groups

def missing (e : String × String) : LogRecord :=
  ⟨.warn, .groups, s!"config is missing for group '{e.2}', queue '{e.1}'"⟩

def looked (group : String) : LogRecord := ⟨.debug, .groups, s!"lookup group='{group}'"⟩

def met (group : String) (extra : List (String × String)) : List (String × String) :=
  extra.filter fun e => group = "" ∨ e.2 = group

theorem queueConfigs_reports (op group : String) (queues : List String) :
    Reports m extra (queueConfigs op group queues)
      (queues.filterMap fun queue => (m.record? group queue).map (·.underGroup))
      ((queues.filter fun queue => (m.record? group queue).isNone).map fun queue => missing (queue, group)) := by
  induction queues with
  | nil => exact .pure _
  | cons queue queues ih =>
      have hfound : Reports m extra _ _ _ := groupConfig_reports op group queue
      rw [List.filterMap_cons, List.filter_cons]
      cases hrecord : m.record? group queue with
      | some record =>
          rw [hrecord] at hfound
          exact .bind hfound (.map ih _)
      | none =>
          rw [hrecord] at hfound
          exact .bind hfound (.bind (.note _ _ _) ih)

def listed (m : Metadata) (extra : List (String × String)) (group : String) : List String :=
  m.queuesOf group ++ (extra.filter (·.2 = group)).map (·.1)

theorem listed_reports (hextra : m.Lacks extra) (op group : String) :
    Reports m extra (queueConfigs op group (listed m extra group)) (m.groupInfo group).queues
      ((extra.filter (·.2 = group)).map missing) := by
  have hunknown : ∀ queue ∈ (extra.filter (·.2 = group)).map (·.1), m.record? group queue = none :=
    forall_of_key (p := fun group queue => m.record? group queue = none) (·.2) (·.1)
      (fun e he => (hextra e he).2) group
  have hmissing : ((extra.filter (·.2 = group)).map (·.1)).map (fun queue => missing (queue, group)) =
      (extra.filter (·.2 = group)).map missing :=
    map_of_key (·.2) (·.1) (fun group queue => missing (queue, group)) extra group
  have hrun : Reports m extra _ _ _ := queueConfigs_reports op group (listed m extra group)
  rwa [listed, filterMap_with_unknown fun queue hqueue => by rw [hunknown queue hqueue, Option.map_none],
    filter_isNone_with_unknown (fun queue => (Metadata.mem_queuesOf m group queue).mp) hunknown,
    hmissing] at hrun

theorem groupInfos_reports (hextra : m.Lacks extra) (op : String) (entries : List (String × List String))
    (hentries : ∀ e ∈ entries, e.2 = listed m extra e.1) :
    Reports m extra (groupInfos op entries) (entries.map fun e => m.groupInfo e.1)
      (entries.flatMap fun e => (extra.filter (·.2 = e.1)).map missing) := by
  induction entries with
  | nil => exact .pure _
  | cons e rest ih =>
      obtain ⟨group, queues⟩ := e
      obtain rfl : queues = listed m extra group := hentries _ (.head _)
      have hrest := ih fun a ha => hentries a (.tail _ ha)
      exact .bind (listed_reports hextra op group) (.map hrest _)

def index (m : Metadata) (extra : List (String × String)) : NameMap (List String) :=
  Metadata.gathered (extra.map Prod.swap) m.groupMap

theorem index_entry {e : String × List String} (he : e ∈ (index m extra).entries) :
    e.2 = listed m extra e.1 := by
  have hget := ((index m extra).get?_eq_some_iff e.1 e.2).mpr he
  have hnames := Metadata.getD_gathered (extra.map Prod.swap) m.groupMap e.1
  have hqueues : m.groupMap.getD e.1 [] = m.queuesOf e.1 := by
    rw [Table.getD, Metadata.groupMap_get?]
    split
    · next hempty => rw [List.isEmpty_iff.mp hempty, Option.getD_none]
    · rfl
  have hextra : ((extra.map Prod.swap).filter (·.1 = e.1)).map (·.2) =
      (extra.filter (·.2 = e.1)).map (·.1) := by
    rw [List.filter_map, List.map_map]
    rfl
  change (index m extra).getD e.1 [] = _ at hnames
  rw [Table.getD, hget, hqueues, hextra] at hnames
  exact hnames

theorem mem_index_keys (m : Metadata) (extra : List (String × String)) (group : String) :
    group ∈ (index m extra).keys ↔ group ∈ m.groupMap.keys ∨ ∃ e ∈ extra, e.2 = group := by
  rw [← Table.contains_iff_mem_keys, ← Table.contains_iff_mem_keys, index, Metadata.contains_gathered]
  simp

def shown (m : Metadata) (extra : List (String × String)) (group : String) : List GroupInfo :=
  ((index m extra).keys.filter fun name => group.isEmpty || name = group).map m.groupInfo

theorem lookup_reports (hextra : m.Lacks extra) (group : String) : ∃ warnings,
    Reports m extra (lookup group) (shown m extra group) (looked group :: warnings) ∧
    warnings.Perm ((met group extra).map missing) := by
  let wanted : String → Bool := fun name => group.isEmpty || name = group
  have hinfos : Reports m extra _ _ _ :=
    groupInfos_reports hextra "LookupGroup" ((index m extra).filterKeys wanted).entries fun e he =>
      index_entry (List.mem_filter.mp he).1
  have hkeys : ((index m extra).filterKeys wanted).entries.map (·.1) = (index m extra).keys.filter wanted := by
    rw [Table.keys, List.filter_map]
    rfl
  have hpiles : (((index m extra).filterKeys wanted).entries.flatMap fun e =>
      (extra.filter (·.2 = e.1)).map missing) =
      (((index m extra).keys.filter wanted).flatMap fun name => extra.filter (·.2 = name)).map missing := by
    rw [← hkeys, List.map_flatMap, List.flatMap_map]
  have hmet : extra.filter (·.2 ∈ (index m extra).keys.filter wanted) = met group extra := by
    refine List.filter_congr fun e he => ?_
    have hkey : e.2 ∈ (index m extra).keys := (mem_index_keys m extra e.2).mpr (.inr ⟨e, he, rfl⟩)
    simp [hkey, wanted]
  rw [shown, ← hkeys, List.map_map]
  refine ⟨_, .bind (.note _ _ _) (.bind (groupMap_reports _) hinfos), ?_⟩
  rw [List.nil_append, hpiles, ← hmet]
  exact (flatMap_filter_perm (·.2) ((index m extra).keys_nodup.filter wanted) extra).map missing

theorem shown_names (m : Metadata) (extra : List (String × String)) (group : String) :
    (shown m extra group).map (·.group) =
      (index m extra).keys.filter fun name => group.isEmpty || name = group := by
  rw [shown, List.map_map]
  exact List.map_id _

theorem shown_ascending (m : Metadata) (extra : List (String × String)) (group : String) :
    ((shown m extra group).map (·.group)).Pairwise (· < ·) := by
  rw [shown_names]
  exact (index m extra).keys_ascending.filter _

theorem shown_sublist (m : Metadata) (extra : List (String × String)) (group : String) :
    (shown m [] group).Sublist (shown m extra group) := by
  have hsubset : (index m []).keys ⊆ (index m extra).keys := fun name hname =>
    (mem_index_keys m extra name).mpr (((mem_index_keys m [] name).mp hname).imp_right (by simp))
  have hsublist : (index m []).keys.Sublist (index m extra).keys :=
    List.sublist_of_subperm_of_pairwise (List.subperm_of_subset (index m []).keys_nodup hsubset)
      (index m []).keys_ascending (index m extra).keys_ascending
  exact (hsublist.filter _).map _

theorem unknown_iff (m : Metadata) (group : String) :
    group ∉ m.groupMap.keys ↔ ∀ queue, m.record? group queue = none := by
  rw [Metadata.mem_groupMap_keys]
  simp

theorem groupInfo_of_unknown {group : String} (hgroup : group ∉ m.groupMap.keys) :
    m.groupInfo group = ⟨group, []⟩ := by
  have hqueues : m.queuesOf group = [] := by
    refine List.eq_nil_iff_forall_not_mem.mpr fun queue hqueue => hgroup ?_
    exact (Metadata.mem_groupMap_keys m group).mpr ⟨queue, (Metadata.mem_queuesOf m group queue).mp hqueue⟩
  rw [Metadata.groupInfo, hqueues, List.filterMap_nil]

theorem mem_shown (m : Metadata) (extra : List (String × String)) (group : String) (info : GroupInfo) :
    info ∈ shown m extra group ↔ info ∈ shown m [] group ∨
      (∃ e ∈ extra, e.2 = info.group) ∧ (group = "" ∨ info.group = group) ∧
        (∀ queue, m.record? info.group queue = none) ∧ info.queues = [] := by
  have hmem (extra : List (String × String)) (info : GroupInfo) : info ∈ shown m extra group ↔
      (info.group ∈ m.groupMap.keys ∨ ∃ e ∈ extra, e.2 = info.group) ∧
        (group = "" ∨ info.group = group) ∧ m.groupInfo info.group = info := by
    rw [shown, List.mem_map]
    constructor
    · rintro ⟨name, hname, rfl⟩
      obtain ⟨hkey, hwanted⟩ := List.mem_filter.mp hname
      exact ⟨(mem_index_keys m extra name).mp hkey, by simpa [Metadata.groupInfo] using hwanted, rfl⟩
    · rintro ⟨hkey, hwanted, hinfo⟩
      refine ⟨info.group, List.mem_filter.mpr ⟨(mem_index_keys m extra _).mpr hkey, ?_⟩, hinfo⟩
      simpa using hwanted
  rw [hmem, hmem, ← unknown_iff]
  -- A group of the index alone is shown with no queues, and is new just where no record has it.
  by_cases hknown : info.group ∈ m.groupMap.keys
  · simp [hknown]
  · have hinfo : m.groupInfo info.group = info ↔ info.queues = [] := by
      rw [groupInfo_of_unknown hknown]
      obtain ⟨name, queues⟩ := info
      simp [eq_comm]
    simp [hknown, hinfo]

end Groups

namespace Host

/-- The host with these entries in its indexes, besides those of the records. -/
def drifted (h : Host) (extra : List (String × String)) : Host :=
  { h with site := { h.site with drift := extra } }

def logging (h : Host) (records : Journal) : Host := { h with site := h.site.logging records }

/-- Whatever entries without a record have drifted into the indexes, of recorded queues: a look-up of queues
answers the same, and one of groups adds only the groups that are known from nowhere else, without queues and in
their place. Neither fails, and each entry that a look-up meets is warned of once. -/
theorem drifted_lookups (h : Host) (hreads : h.site.Answering) (extra : List (String × String))
    (hextra : ∀ e ∈ extra, h.site.backend.metadata.exist e.1 ∧
      h.site.backend.metadata.record? e.2 e.1 = none) :
    (∀ queue group, ∃ infos warnings,
      let looked : LogRecord := ⟨.debug, .lifecycle, s!"lookup queue='{queue}' group='{group}'"⟩
      step (.request (.lookupQueue queue group)) (h.drifted []) =
        (.outcome (.ready (.ok (.queues infos))), (h.drifted []).logging [looked]) ∧
      step (.request (.lookupQueue queue group)) (h.drifted extra) =
        (.outcome (.ready (.ok (.queues infos))), (h.drifted extra).logging (looked :: warnings)) ∧
      warnings.Perm ((extra.filter fun e => queue = "" ∨ group = "" ∧ e.1 = queue).map fun e =>
        ⟨.warn, .lifecycle, s!"config is missing for queue '{e.1}', group '{e.2}'"⟩)) ∧
    ∀ group, ∃ infos shown warnings,
      let looked : LogRecord := ⟨.debug, .groups, s!"lookup group='{group}'"⟩
      step (.request (.lookupGroup group)) (h.drifted []) =
        (.outcome (.ready (.ok (.groups infos))), (h.drifted []).logging [looked]) ∧
      step (.request (.lookupGroup group)) (h.drifted extra) =
        (.outcome (.ready (.ok (.groups shown))), (h.drifted extra).logging (looked :: warnings)) ∧
      infos.Sublist shown ∧ (shown.map (·.group)).Pairwise (· < ·) ∧
      (∀ info, info ∈ shown ↔ info ∈ infos ∨
        (∃ e ∈ extra, e.2 = info.group) ∧ (group = "" ∨ info.group = group) ∧
          (∀ queue, h.site.backend.metadata.record? info.group queue = none) ∧ info.queues = []) ∧
      warnings.Perm ((extra.filter fun e => group = "" ∨ e.2 = group).map fun e =>
        ⟨.warn, .groups, s!"config is missing for group '{e.2}', queue '{e.1}'"⟩) := by
  have hat (extra : List (String × String)) : (h.drifted extra).site.Drifted h.site.backend.metadata extra :=
    ⟨rfl, rfl, hreads⟩
  have hnone : h.site.backend.metadata.Lacks [] := by simp [Metadata.Lacks]
  constructor
  · intro queue group
    obtain ⟨infos, hinfos⟩ := Lifecycle.lookup_reports h.site.backend.metadata queue group
    have hstep {extra : List (String × String)} {warnings : Journal}
        (hrun : Operation.Reports h.site.backend.metadata extra (Lifecycle.lookup queue group) infos
          (Lifecycle.looked queue group :: warnings)) :
        step (.request (.lookupQueue queue group)) (h.drifted extra) =
          (.outcome (.ready (.ok (.queues infos))),
            (h.drifted extra).logging (Lifecycle.looked queue group :: warnings)) := by
      change (Reply.outcome (.ready ((Lifecycle.lookup queue group (h.drifted extra).site).1.map .queues)),
        { h.drifted extra with site := (Lifecycle.lookup queue group (h.drifted extra).site).2 }) = _
      rw [hrun _ (hat extra)]
      rfl
    -- The undrifted lookup is the one with no entries, whose warnings are a rearrangement of none.
    obtain ⟨none, hplain, hempty⟩ := hinfos [] hnone
    obtain rfl : none = [] := hempty.eq_nil
    obtain ⟨warnings, hdrifted, hwarnings⟩ := hinfos extra hextra
    exact ⟨infos, warnings, hstep hplain, hstep hdrifted, hwarnings⟩
  · intro group
    have hstep {extra : List (String × String)} {infos : List GroupInfo} {warnings : Journal}
        (hrun : Operation.Reports h.site.backend.metadata extra (Groups.lookup group) infos
          (Groups.looked group :: warnings)) :
        step (.request (.lookupGroup group)) (h.drifted extra) =
          (.outcome (.ready (.ok (.groups infos))),
            (h.drifted extra).logging (Groups.looked group :: warnings)) := by
      change (Reply.outcome (.ready ((Groups.lookup group (h.drifted extra).site).1.map .groups)),
        { h.drifted extra with site := (Groups.lookup group (h.drifted extra).site).2 }) = _
      rw [hrun _ (hat extra)]
      rfl
    obtain ⟨none, hplain, hempty⟩ := Groups.lookup_reports hnone group
    obtain rfl : none = [] := hempty.eq_nil
    obtain ⟨warnings, hdrifted, hwarnings⟩ := Groups.lookup_reports hextra group
    exact ⟨_, _, warnings, hstep hplain, hstep hdrifted, Groups.shown_sublist _ _ _,
      Groups.shown_ascending _ _ _, Groups.mem_shown _ _ _, hwarnings⟩

/-- One entry twice, one of a group that another queue has, and one of a group that no queue has. -/
theorem drifted_lookups_of_four :
    let es : List Event := [.request (.createQueue "a"), .request (.createQueue "b"),
      .request (.addGroup "g" "a" {})]
    let h := (steps es ⟨{}, { settings := ⟨["b"], "zk", 4, 2⟩ }⟩).2
    let extra := [("a", "p"), ("a", "p"), ("b", "g"), ("b", "o")]
    let after := step (.request (.lookupGroup "")) (h.drifted extra)
    ∃ shown, after.1 = .outcome (.ready (.ok (.groups shown))) ∧ ⟨"o", []⟩ ∈ shown ∧ ⟨"p", []⟩ ∈ shown ∧
      after.2.site.journal.length = h.site.journal.length + 5 := by
  intro es h extra after
  have hextra : ∀ e ∈ extra, h.site.backend.metadata.exist e.1 ∧
      h.site.backend.metadata.record? e.2 e.1 = none := by decide +kernel
  have hreads : ∀ c ∈ Site.metadataReads, h.site.faults c = none := by decide +kernel
  obtain ⟨-, hgroups⟩ := drifted_lookups h hreads extra hextra
  obtain ⟨infos, shown, warnings, -, hrun, -, -, hshown, hwarnings⟩ := hgroups ""
  have hunknown (group : String) (hgroup : group ∉ h.site.backend.metadata.groupMap.keys) :=
    (Groups.unknown_iff _ group).mp hgroup
  have hjournal := congrArg List.length (congrArg (fun r => r.2.site.journal) hrun)
  refine ⟨shown, congrArg Prod.fst hrun, (hshown _).mpr (.inr ?_), (hshown _).mpr (.inr ?_), ?_⟩
  · exact ⟨⟨("b", "o"), by simp [extra], rfl⟩, .inl rfl, hunknown "o" (by decide +kernel), rfl⟩
  · exact ⟨⟨("a", "p"), by simp [extra], rfl⟩, .inl rfl, hunknown "p" (by decide +kernel), rfl⟩
  · simpa [after, Host.logging, Site.logging, drifted, hwarnings.length_eq, extra] using hjournal

end Host

end ManagedQueue
