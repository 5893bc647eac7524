import ManagedQueue.Proofs.GroupAccess

namespace ManagedQueue

namespace Table

variable {κ α : Type} [LE κ] [LT κ] [Std.LawfulOrderLT κ] [Std.IsLinearOrder κ] [DecidableEq κ]

omit [Std.IsLinearOrder κ] in
theorem keys_filter_eq (t : Table κ α) (k : κ) :
    t.keys.filter (· = k) = if t.contains k then [k] else [] := by
  rw [List.filter_eq, t.keys_nodup.count]
  by_cases hk : k ∈ t.keys
  · rw [if_pos hk, if_pos ((t.contains_iff_mem_keys k).mpr hk)]
    rfl
  · rw [if_neg hk, if_neg fun hc => hk ((t.contains_iff_mem_keys k).mp hc)]
    rfl

omit [Std.IsLinearOrder κ] in
theorem entries_filter_eq (t : Table κ α) (k : κ) :
    t.entries.filter (·.1 = k) = (t.get? k).toList.map (k, ·) := by
  obtain ⟨l, hl⟩ := t
  change l.filter (·.1 = k) = (findEntry k l).toList.map (k, ·)
  induction l with
  | nil => rfl
  | cons e rest ih =>
      obtain ⟨he, hrest⟩ := List.pairwise_cons.mp hl
      rw [List.filter_cons, findEntry]
      by_cases hk : e.1 = k
      · -- The keys that follow are greater.
        have hnone : rest.filter (·.1 = k) = [] := by
          refine List.filter_eq_nil_iff.mpr fun a ha hak => ?_
          have hlt := he a ha
          rw [hk, of_decide_eq_true hak] at hlt
          exact Std.lt_irrefl hlt
        rw [if_pos hk, if_pos (decide_eq_true hk), hnone, ← hk]
        rfl
      · rw [if_neg hk, if_neg (by simpa using hk)]
        exact ih hrest

end Table

namespace GroupRecord

theorem eq_of_underQueue {r q : GroupRecord} (hqueue : r.queue = q.queue) (h : r.underQueue = q.underQueue) :
    r = q := by
  cases r
  cases q
  simp_all [underQueue, access]

theorem eq_of_underGroup {r q : GroupRecord} (hgroup : r.group = q.group) (h : r.underGroup = q.underGroup) :
    r = q := by
  cases r
  cases q
  simp_all [underGroup, access]

theorem inFull_injective : Function.Injective inFull := by
  intro r q h
  cases r
  cases q
  simp_all [inFull, access]

/-- The listing shows it at its queue. -/
def AtQueue (r : GroupRecord) (infos : List QueueInfo) : Prop :=
  ∃ info ∈ infos, info.queue = r.queue ∧ r.underQueue ∈ info.groups

def AtGroup (r : GroupRecord) (infos : List GroupInfo) : Prop :=
  ∃ info ∈ infos, info.group = r.group ∧ r.underGroup ∈ info.queues

end GroupRecord

namespace Metadata

theorem getD_indexed (index : NameMap (List String)) (key name k : String) :
    (indexed index key name).getD k [] = index.getD k [] ++ if k = key then [name] else [] := by
  unfold indexed
  rw [Table.getD, Table.get?_insert]
  split
  · next hk => rw [Option.getD_some, hk]
  · rw [List.append_nil, Table.getD]

theorem contains_indexed (index : NameMap (List String)) (key name k : String) :
    (indexed index key name).contains k = (index.contains k || decide (k = key)) := by
  unfold indexed
  rw [Table.contains_insert]
  by_cases hk : k = key <;> simp [hk]

/-- The names that come with each key, in their order. -/
def gathered (pairs : List (String × String)) (index : NameMap (List String)) : NameMap (List String) :=
  pairs.foldl (fun index p => indexed index p.1 p.2) index

theorem getD_gathered (pairs : List (String × String)) (index : NameMap (List String)) (k : String) :
    (gathered pairs index).getD k [] = index.getD k [] ++ (pairs.filter (·.1 = k)).map (·.2) := by
  induction pairs generalizing index with
  | nil => simp [gathered]
  | cons p rest ih =>
      have hstep : gathered (p :: rest) index = gathered rest (indexed index p.1 p.2) := rfl
      rw [hstep, ih, getD_indexed, List.append_assoc]
      by_cases hk : p.1 = k
      · simp [hk]
      · simp [hk, Ne.symm hk]

theorem contains_gathered (pairs : List (String × String)) (index : NameMap (List String)) (k : String) :
    (gathered pairs index).contains k = (index.contains k || pairs.any (·.1 = k)) := by
  induction pairs generalizing index with
  | nil => simp [gathered]
  | cons p rest ih =>
      have hstep : gathered (p :: rest) index = gathered rest (indexed index p.1 p.2) := rfl
      rw [hstep, ih, contains_indexed, List.any_cons, Bool.or_assoc]
      simp [eq_comm]

theorem gathered_congr {index other : NameMap (List String)} {k : String} (h : other.get? k = index.get? k)
    (pairs : List (String × String)) : (gathered pairs other).get? k = (gathered pairs index).get? k := by
  induction pairs generalizing index other with
  | nil => exact h
  | cons p rest ih =>
      refine ih ?_
      unfold indexed
      rw [Table.get?_insert, Table.get?_insert]
      split
      · next hk => rw [Table.getD, Table.getD, ← hk, h]
      · exact h

variable {m : Metadata}

def pairs (m : Metadata) : List (String × String) :=
  m.queues.entries.flatMap fun e => e.2.groups.keys.map (·, e.1)

theorem groupMap_gathered (m : Metadata) : m.groupMap = gathered m.pairs ∅ := by
  unfold groupMap gathered pairs
  rw [List.foldl_flatMap]
  simp only [List.foldl_map]

def queuesOf (m : Metadata) (group : String) : List String :=
  (m.queues.entries.filter fun e => e.2.groups.contains group).map (·.1)

theorem pairs_of_group (m : Metadata) (group : String) :
    (m.pairs.filter (·.1 = group)).map (·.2) = m.queuesOf group := by
  unfold pairs queuesOf
  generalize m.queues.entries = entries
  induction entries with
  | nil => rfl
  | cons e rest ih =>
      have hfirst : ((e.2.groups.keys.map fun g => (g, e.1)).filter fun p => p.1 = group).map (·.2) =
          if e.2.groups.contains group then [e.1] else [] := by
        rw [List.filter_map, List.map_map]
        have hkeys := e.2.groups.keys_filter_eq group
        change List.map (fun _ => e.1) (e.2.groups.keys.filter fun g => g = group) = _
        rw [hkeys]
        split <;> rfl
      rw [List.flatMap_cons, List.filter_append, List.map_append, hfirst, ih, List.filter_cons]
      split <;> rfl

theorem any_pairs (m : Metadata) (group : String) :
    m.pairs.any (·.1 = group) = !(m.queuesOf group).isEmpty := by
  rw [← pairs_of_group, List.isEmpty_map, Bool.eq_iff_iff]
  simp

theorem groupMap_get? (m : Metadata) (group : String) :
    m.groupMap.get? group = if (m.queuesOf group).isEmpty then none else some (m.queuesOf group) := by
  have hlist : m.groupMap.getD group [] = m.queuesOf group := by
    rw [groupMap_gathered, getD_gathered, pairs_of_group]
    rfl
  have hthere : m.groupMap.contains group = !(m.queuesOf group).isEmpty := by
    rw [groupMap_gathered, contains_gathered, any_pairs]
    rfl
  unfold Table.getD at hlist
  unfold Table.contains at hthere
  cases hget : m.groupMap.get? group with
  | none =>
      rw [hget] at hthere
      rw [if_pos (by simpa using hthere.symm)]
  | some queues =>
      rw [hget] at hlist hthere
      rw [if_neg (by simpa using hthere.symm)]
      exact congrArg some hlist

theorem mem_queuesOf (m : Metadata) (group queue : String) :
    queue ∈ m.queuesOf group ↔ (m.record? group queue).isSome := by
  unfold queuesOf record?
  constructor
  · intro hqueue
    obtain ⟨e, he, rfl⟩ := List.mem_map.mp hqueue
    obtain ⟨hentry, hgroup⟩ := List.mem_filter.mp he
    rw [(m.queues.get?_eq_some_iff e.1 e.2).mpr hentry]
    exact hgroup
  · intro hrecord
    obtain ⟨r, hr⟩ := Option.isSome_iff_exists.mp hrecord
    obtain ⟨entry, hentry, hgroup⟩ := Option.bind_eq_some_iff.mp hr
    refine List.mem_map.mpr ⟨(queue, entry), List.mem_filter.mpr ⟨?_, ?_⟩, rfl⟩
    · exact (m.queues.get?_eq_some_iff queue entry).mp hentry
    · rw [Table.contains, hgroup]
      rfl

theorem queuesOf_ascending (m : Metadata) (group : String) : (m.queuesOf group).Pairwise (· < ·) :=
  m.queues.keys_ascending.sublist (List.filter_sublist.map _)

theorem mem_groupMap_keys (m : Metadata) (group : String) :
    group ∈ m.groupMap.keys ↔ ∃ queue, (m.record? group queue).isSome := by
  rw [← Table.contains_iff_mem_keys, Table.contains, groupMap_get?]
  constructor
  · intro hthere
    split at hthere
    · cases hthere
    · next hnonempty =>
      obtain ⟨queue, hqueue⟩ := List.isEmpty_eq_false_iff_exists_mem.mp (Bool.eq_false_iff.mpr hnonempty)
      exact ⟨queue, (mem_queuesOf m group queue).mp hqueue⟩
  · rintro ⟨queue, hqueue⟩
    have hmem := (mem_queuesOf m group queue).mpr hqueue
    rw [if_neg (by simp [List.ne_nil_of_mem hmem])]
    rfl

def queueInfo (queue : String) (entry : QueueEntry) : QueueInfo :=
  { queue, ctime := entry.ctime, length := 0, groups := entry.groups.entries.map (·.2.underQueue) }

/-- Every recorded queue with its groups. -/
def queueInfos (m : Metadata) : List QueueInfo := m.queues.entries.map fun e => queueInfo e.1 e.2

def groupInfo (m : Metadata) (group : String) : GroupInfo :=
  { group, queues := (m.queuesOf group).filterMap fun queue => (m.record? group queue).map (·.underGroup) }

/-- Every group that has a record, with its queues. -/
def groupInfos (m : Metadata) : List GroupInfo := m.groupMap.keys.map m.groupInfo

theorem queueInfos_names (m : Metadata) : m.queueInfos.map (·.queue) = m.queues.keys := by
  unfold queueInfos
  rw [List.map_map]
  rfl

theorem groupInfos_names (m : Metadata) : m.groupInfos.map (·.group) = m.groupMap.keys := by
  unfold groupInfos
  rw [List.map_map]
  exact List.map_id _

theorem queueInfos_of_queue (m : Metadata) (queue : String) :
    m.queueInfos.filter (·.queue = queue) = ((m.queues.get? queue).map (queueInfo queue)).toList := by
  unfold queueInfos
  rw [List.filter_map]
  have hentries := m.queues.entries_filter_eq queue
  change List.map _ (m.queues.entries.filter fun e => e.1 = queue) = _
  rw [hentries]
  cases m.queues.get? queue <;> rfl

theorem groupInfos_of_group (m : Metadata) (group : String) :
    m.groupInfos.filter (·.group = group) = (m.groupMap.keys.filter (· = group)).map m.groupInfo := by
  unfold groupInfos
  rw [List.filter_map]
  rfl

/-- Every record lies under its own names, and these are valid. -/
def Filed (m : Metadata) : Prop :=
  ∀ ⦃group queue r⦄, m.record? group queue = some r →
    r.group = group ∧ r.queue = queue ∧ nameFault? group = none ∧ nameFault? queue = none

theorem record?_of_mem {e : String × QueueEntry} (he : e ∈ m.queues.entries) (group : String) :
    m.record? group e.1 = e.2.groups.get? group :=
  record?_of_entry ((m.queues.get?_eq_some_iff e.1 e.2).mpr he) group

namespace Filed

variable (hm : m.Filed)

include hm

/-- The listing of queues shows a record if it is there. -/
theorem atQueue_iff (r : GroupRecord) :
    r.AtQueue m.queueInfos ↔ m.record? r.group r.queue = some r := by
  constructor
  · rintro ⟨info, hinfo, hqueue, hshown⟩
    obtain ⟨e, he, rfl⟩ := List.mem_map.mp hinfo
    obtain ⟨⟨group, found⟩, hfound, hsame⟩ := List.mem_map.mp hshown
    have hrecord : m.record? group e.1 = some found :=
      (record?_of_mem he group).trans ((e.2.groups.get?_eq_some_iff group found).mpr hfound)
    obtain ⟨hgroup, hunder, -, -⟩ := hm hrecord
    have heq : found = r := GroupRecord.eq_of_underQueue (hunder.trans hqueue) hsame
    rw [← heq, hgroup, hunder]
    exact hrecord
  · intro hrecord
    obtain ⟨entry, hentry, hr⟩ := Option.bind_eq_some_iff.mp hrecord
    refine ⟨queueInfo r.queue entry, List.mem_map.mpr ⟨(r.queue, entry), ?_, rfl⟩, rfl, ?_⟩
    · exact (m.queues.get?_eq_some_iff r.queue entry).mp hentry
    · exact List.mem_map.mpr ⟨(r.group, r), (entry.groups.get?_eq_some_iff r.group r).mp hr, rfl⟩

theorem atGroup_iff (r : GroupRecord) :
    r.AtGroup m.groupInfos ↔ m.record? r.group r.queue = some r := by
  constructor
  · rintro ⟨info, hinfo, hgroup, hshown⟩
    obtain ⟨group, -, rfl⟩ := List.mem_map.mp hinfo
    obtain ⟨queue, -, hqueue⟩ := List.mem_filterMap.mp hshown
    obtain ⟨found, hrecord, hsame⟩ := Option.map_eq_some_iff.mp hqueue
    obtain ⟨hunder, hqueue, -, -⟩ := hm hrecord
    have heq : found = r := GroupRecord.eq_of_underGroup (hunder.trans hgroup) hsame
    rw [← heq, hunder, hqueue]
    exact hrecord
  · intro hrecord
    have hsome : (m.record? r.group r.queue).isSome := by
      rw [hrecord]
      rfl
    refine ⟨m.groupInfo r.group, List.mem_map.mpr ⟨r.group, ?_, rfl⟩, rfl, ?_⟩
    · exact (mem_groupMap_keys m r.group).mpr ⟨r.queue, hsome⟩
    · refine List.mem_filterMap.mpr ⟨r.queue, (mem_queuesOf m r.group r.queue).mpr hsome, ?_⟩
      rw [hrecord]
      rfl

theorem groups_of_name {queue : String} {entry : QueueEntry} (hentry : m.queues.get? queue = some entry)
    (group : String) : (queueInfo queue entry).groups.filter (·.group = some group) =
      ((m.record? group queue).map (·.underQueue)).toList := by
  have hnames : ∀ e ∈ entry.groups.entries, (some e.2.group = some group) = (e.1 = group) := by
    intro e he
    have hrecord := (record?_of_entry hentry e.1).trans ((entry.groups.get?_eq_some_iff e.1 e.2).mpr he)
    rw [(hm hrecord).1, Option.some.injEq]
  have hsame : entry.groups.entries.filter (fun e => some e.2.group = some group) =
      entry.groups.entries.filter (·.1 = group) :=
    List.filter_congr fun e he => by simp only [hnames e he]
  unfold queueInfo
  rw [List.filter_map]
  change List.map _ (entry.groups.entries.filter fun e => some e.2.group = some group) = _
  rw [hsame, Table.entries_filter_eq, record?_of_entry hentry]
  cases entry.groups.get? group <;> rfl

theorem queueInfo_records {queue : String} {entry : QueueEntry} (hentry : m.queues.get? queue = some entry) :
    ∃ rs : List GroupRecord, (queueInfo queue entry).groups = rs.map (·.underQueue) ∧
      (∀ r ∈ rs, r.queue = queue) ∧ (rs.map (·.group)).Pairwise (· < ·) := by
  have hfiled : ∀ e ∈ entry.groups.entries, e.2.group = e.1 ∧ e.2.queue = queue := by
    intro e he
    have hrecord := (record?_of_entry hentry e.1).trans ((entry.groups.get?_eq_some_iff e.1 e.2).mpr he)
    exact ⟨(hm hrecord).1, (hm hrecord).2.1⟩
  have hnames : (entry.groups.entries.map (·.2)).map (·.group) = entry.groups.keys := by
    rw [List.map_map]
    exact List.map_congr_left fun e he => (hfiled e he).1
  refine ⟨entry.groups.entries.map (·.2), ?_, fun r hr => ?_, ?_⟩
  · rw [List.map_map]
    rfl
  · obtain ⟨e, he, rfl⟩ := List.mem_map.mp hr
    exact (hfiled e he).2
  · rw [hnames]
    exact entry.groups.keys_ascending

theorem groupInfo_records (group : String) :
    ∃ rs : List GroupRecord, (m.groupInfo group).queues = rs.map (·.underGroup) ∧
      (∀ r ∈ rs, r.group = group) ∧ (rs.map (·.queue)).Pairwise (· < ·) := by
  have hnames (queues : List String) (hall : ∀ queue ∈ queues, (m.record? group queue).isSome) :
      (queues.filterMap (m.record? group)).map (·.queue) = queues := by
    induction queues with
    | nil => rfl
    | cons queue rest ih =>
        obtain ⟨r, hr⟩ := Option.isSome_iff_exists.mp (hall queue (.head _))
        rw [List.filterMap_cons, hr, List.map_cons, (hm hr).2.1, ih fun q hq => hall q (.tail _ hq)]
  refine ⟨(m.queuesOf group).filterMap (m.record? group), List.map_filterMap.symm, fun r hr => ?_, ?_⟩
  · obtain ⟨queue, -, hrecord⟩ := List.mem_filterMap.mp hr
    exact (hm hrecord).1
  · rw [hnames _ fun queue => (mem_queuesOf m group queue).mp]
    exact queuesOf_ascending m group

end Filed

end Metadata

end ManagedQueue
