import ManagedQueue.Proofs.RecordIndexes

namespace ManagedQueue

/-- The site has these records and topics, and its indexes have no entries of their own. -/
structure Site.Shows (m : Metadata) (topics : NameMap Topic) (s : Site) : Prop where
  metadata : s.backend.metadata = m
  topics : s.backend.registry.topics = topics
  drift : s.drift = []

def Site.Faulty (s : Site) : Prop := ∃ c, s.faults c ≠ none

theorem Site.Faulty.of_counted {s : Site} {c : Call} (h : (s.counted c).Faulty) : s.Faulty := by
  obtain ⟨d, hd⟩ := h
  by_cases hc : d = c
  · refine ⟨c, fun hnone => hd ?_⟩
    simp [counted, hc, hnone]
  · exact ⟨d, fun hnone => hd (by simp [counted, hc, hnone])⟩

theorem Site.Faulty.of_struck {s : Site} {c : Call} {e : CollaboratorError} (h : s.struck c = some e) :
    s.Faulty := by
  refine ⟨c, fun hnone => ?_⟩
  rw [struck, hnone] at h
  cases h

namespace Operation

variable {α β : Type} {m : Metadata} {topics : NameMap Topic}

/-- With these records and topics the operation answers this, or fails where a failure is planned. -/
def Tells (m : Metadata) (topics : NameMap Topic) (x : Operation α) (a : α) : Prop :=
  ∀ s : Site, s.Shows m topics → (x s).2.Shows m topics ∧ ((x s).2.Faulty → s.Faulty) ∧
    ((x s).1 = .ok a ∨ s.Faulty ∧ ∃ e, (x s).1 = .error e)

namespace Tells

theorem pure (a : α) : Tells m topics (Pure.pure a : Operation α) a := fun _ hs => ⟨hs, id, .inl rfl⟩

theorem bind {x : Operation α} {f : α → Operation β} {a : α} {b : β} (hx : Tells m topics x a)
    (hf : Tells m topics (f a) b) : Tells m topics (x >>= f) b := by
  intro s hs
  obtain ⟨ht, hfaulty, hanswer⟩ := hx s hs
  rcases hrun : x s with ⟨e | a', t⟩
  · rw [hrun] at ht hfaulty hanswer
    rw [bind_of_error hrun]
    obtain hok | ⟨hplanned, -⟩ := hanswer
    · cases hok
    · exact ⟨ht, hfaulty, .inr ⟨hplanned, e, rfl⟩⟩
  · rw [hrun] at ht hfaulty hanswer
    obtain hok | ⟨-, e, herror⟩ := hanswer
    · cases hok
      rw [bind_of_ok hrun]
      obtain ⟨hu, hlater, hanswer⟩ := hf t ht
      exact ⟨hu, hfaulty ∘ hlater, hanswer.imp_right fun ⟨hplanned, he⟩ => ⟨hfaulty hplanned, he⟩⟩
    · cases herror

theorem note (level : Level) (component : Component) (text : String) :
    Tells m topics (Operation.note level component text) () :=
  fun _ hs => ⟨⟨hs.metadata, hs.topics, hs.drift⟩, id, .inl rfl⟩

theorem call (c : Call) (failed : CollaboratorError → ServiceError)
    {task : Task (Except CollaboratorError α)} {a : α}
    (h : ∀ s : Site, s.Shows m topics → (task s).1 = .ok a ∧ (task s).2.Shows m topics ∧
      (task s).2.faults = s.faults) : Tells m topics (call c failed task) a := by
  intro s hs
  have hcounted : (s.counted c).Shows m topics := ⟨hs.metadata, hs.topics, hs.drift⟩
  rw [call_run, attempt_run]
  cases hstruck : s.struck c with
  | some e => exact ⟨hcounted, .of_counted, .inr ⟨.of_struck hstruck, failed e, rfl⟩⟩
  | none =>
      obtain ⟨hanswer, ht, hfaults⟩ := h _ hcounted
      rcases hrun : task (s.counted c) with ⟨answer, t⟩
      rw [hrun] at hanswer ht hfaults
      cases hanswer
      refine ⟨ht, fun hfaulty => ?_, .inl rfl⟩
      obtain ⟨d, hd⟩ := hfaulty
      exact .of_counted ⟨d, by rw [← hfaults]; exact hd⟩

theorem ask (c : Call) (failed : CollaboratorError → ServiceError) {f : Site → α} {a : α}
    (h : ∀ s : Site, s.Shows m topics → f s = a) :
    Tells m topics (ask c failed (return f (← get))) a :=
  .call c failed fun s hs => ⟨congrArg Except.ok (h s hs), hs, rfl⟩

end Tells

theorem requireName_tells {kind value : String} (h : nameFault? value = none) :
    Tells m topics (requireName kind value) () := by
  unfold requireName
  rw [h]
  exact .pure _

theorem requireTopic_tells {op queue : String} (h : topics.contains queue) :
    Tells m topics (requireTopic .strict op queue) () := by
  have hexists : Tells m topics (topicExists .strict op queue) true := by
    refine .call _ _ fun s hs => ⟨?_, ⟨hs.metadata, hs.topics, hs.drift⟩, rfl⟩
    have hfound : (s.backend.registry.exist queue true).1 = true := by
      rw [Registry.exist_forced, hs.topics]
      exact h
    exact congrArg Except.ok hfound
  exact .bind hexists (.pure _)

theorem queueRecorded_tells (op queue : String) : Tells m topics (queueRecorded op queue) (m.exist queue) :=
  .ask _ _ fun s hs => by rw [hs.metadata]

theorem queueMap_tells (failed : CollaboratorError → ServiceError) :
    Tells m topics (queueMap failed) m.queueMap :=
  .ask _ _ fun s hs => by rw [queueIndex, hs.metadata, hs.drift]; rfl

theorem groupMap_tells (failed : CollaboratorError → ServiceError) :
    Tells m topics (groupMap failed) m.groupMap :=
  .ask _ _ fun s hs => by rw [groupIndex, hs.metadata, hs.drift]; rfl

theorem groupConfig_tells (op group queue : String) :
    Tells m topics (groupConfig op group queue) (m.record? group queue) :=
  .ask _ _ fun s hs => by rw [hs.metadata]

end Operation

open Operation

variable {m : Metadata} {topics : NameMap Topic}

def QueueInfo.only (group : String) (i : QueueInfo) : QueueInfo :=
  { i with groups := i.groups.filter (·.group = some group) }

namespace Lifecycle

theorem groupConfigs_tells (op queue : String) (groups : List String) :
    Tells m topics (groupConfigs op queue groups)
      (groups.filterMap fun group => (m.record? group queue).map (·.underQueue)) := by
  induction groups with
  | nil => exact .pure _
  | cons group groups ih =>
      refine .bind (groupConfig_tells op group queue) ?_
      rw [List.filterMap_cons]
      cases m.record? group queue with
      | some record => exact .bind ih (.pure _)
      | none => exact .bind (.note _ _ _) ih

theorem queueInfo_tells (op : String) {queue : String} {entry : QueueEntry}
    (hentry : m.queues.get? queue = some entry) (groups : List GroupConfig) :
    Tells m topics (queueInfo op queue groups) { queue, ctime := entry.ctime, length := 0, groups } := by
  have htime : Tells m topics (call .queueCreateTime (.collaborator op queue none)
      (Site.queueCreateTime queue)) entry.ctime := by
    refine .call _ _ fun s hs => ⟨?_, hs, rfl⟩
    change s.backend.metadata.createTime queue = _
    rw [hs.metadata, Metadata.createTime, hentry]
  exact .bind htime (.pure _)

theorem configs_of_keys {queue : String} {entry : QueueEntry} (hentry : m.queues.get? queue = some entry) :
    entry.groups.keys.filterMap (fun group => (m.record? group queue).map (·.underQueue)) =
      (Metadata.queueInfo queue entry).groups := by
  have hrecords : (fun group => (m.record? group queue).map (·.underQueue)) =
      fun group => (entry.groups.get? group).map (·.underQueue) := by
    funext group
    rw [Metadata.record?_of_entry hentry]
  have hfound := congrArg (List.map (·.underQueue)) entry.groups.filterMap_get?_keys
  rw [List.map_filterMap, List.map_map] at hfound
  rw [hrecords, hfound]
  rfl

theorem queueInfos_tells (op : String) (entries : List (String × QueueEntry))
    (hentries : ∀ e ∈ entries, m.queues.get? e.1 = some e.2) :
    Tells m topics (queueInfos op (entries.map fun e => (e.1, e.2.groups.keys)))
      (entries.map fun e => Metadata.queueInfo e.1 e.2) := by
  induction entries with
  | nil => exact .pure _
  | cons e rest ih =>
      have hentry := hentries e (.head _)
      have hgroups : Tells m topics _ _ := groupConfigs_tells op e.1 e.2.groups.keys
      rw [configs_of_keys hentry] at hgroups
      exact .bind hgroups (.bind (queueInfo_tells op hentry _)
        (.bind (ih fun a ha => hentries a (.tail _ ha)) (.pure _)))

theorem lookup_all_tells (group : String) : Tells m topics (lookup "" group) m.queueInfos := by
  have hindex : m.queueMap.entries = m.queues.entries.map fun e => (e.1, e.2.groups.keys) := rfl
  have hinfos : Tells m topics _ _ := queueInfos_tells "LookupQueue" m.queues.entries fun e he =>
    (m.queues.get?_eq_some_iff e.1 e.2).mpr he
  rw [← hindex] at hinfos
  exact .bind (.note _ _ _) (.bind (queueMap_tells _) hinfos)

theorem lookup_queue_tells {queue : String} (hqueue : queue ≠ "") :
    Tells m topics (lookup queue "") (m.queueInfos.filter (·.queue = queue)) := by
  rw [Metadata.queueInfos_of_queue]
  refine .bind (.note _ _ _) ?_
  rw [if_neg (by simpa using hqueue), if_pos (show "".isEmpty = true from rfl)]
  refine .bind (queueMap_tells _) ?_
  have hgroups : m.queueMap.get? queue = (m.queues.get? queue).map fun e => e.groups.keys :=
    Table.get?_mapValues _ _ _
  rw [hgroups]
  cases hentry : m.queues.get? queue with
  | none => exact .pure _
  | some entry =>
      refine queueInfos_tells "LookupQueue" [(queue, entry)] fun e he => ?_
      rw [List.mem_singleton.mp he]
      exact hentry

theorem lookup_pair_tells (hm : m.Filed) {queue group : String} (hqueue : queue ≠ "") (hgroup : group ≠ "") :
    Tells m topics (lookup queue group)
      ((m.queueInfos.filter (·.queue = queue)).map (QueueInfo.only group)) := by
  rw [Metadata.queueInfos_of_queue]
  refine .bind (.note _ _ _) ?_
  rw [if_neg (by simpa using hqueue), if_neg (by simpa using hgroup)]
  refine .bind (queueRecorded_tells _ _) ?_
  unfold Metadata.exist Table.contains
  cases hentry : m.queues.get? queue with
  | none => exact .pure _
  | some entry =>
      have honly : QueueInfo.only group (Metadata.queueInfo queue entry) =
          ⟨queue, entry.ctime, 0, ((m.record? group queue).map (·.underQueue)).toList⟩ := by
        unfold QueueInfo.only
        rw [hm.groups_of_name hentry]
        rfl
      have hanswer : ((some entry).map (Metadata.queueInfo queue)).toList.map (QueueInfo.only group) =
          [QueueInfo.only group (Metadata.queueInfo queue entry)] := rfl
      rw [hanswer, honly]
      exact .bind (groupConfig_tells _ _ _) (.bind (queueInfo_tells _ hentry _) (.pure _))

end Lifecycle

namespace Groups

theorem queueConfigs_tells (op group : String) (queues : List String) :
    Tells m topics (queueConfigs op group queues)
      (queues.filterMap fun queue => (m.record? group queue).map (·.underGroup)) := by
  induction queues with
  | nil => exact .pure _
  | cons queue queues ih =>
      refine .bind (groupConfig_tells op group queue) ?_
      rw [List.filterMap_cons]
      cases m.record? group queue with
      | some record => exact .bind ih (.pure _)
      | none => exact .bind (.note _ _ _) ih

theorem groupInfos_tells (op : String) (entries : List (String × List String))
    (hentries : ∀ e ∈ entries, e.2 = m.queuesOf e.1) :
    Tells m topics (groupInfos op entries) (entries.map fun e => m.groupInfo e.1) := by
  induction entries with
  | nil => exact .pure _
  | cons e rest ih =>
      have hqueues : Tells m topics _ _ := queueConfigs_tells op e.1 e.2
      rw [hentries e (.head _)] at hqueues
      obtain ⟨group, queues⟩ := e
      have hsame : queues = m.queuesOf group := hentries _ (.head _)
      subst hsame
      exact .bind hqueues (.bind (ih fun a ha => hentries a (.tail _ ha)) (.pure _))

theorem groupInfos_wanted (m : Metadata) (group : String) :
    (m.groupMap.filterKeys fun name => group.isEmpty || name = group).entries.map (m.groupInfo ·.1) =
      if group.isEmpty then m.groupInfos else m.groupInfos.filter (·.group = group) := by
  have hkeys (wanted : String → Bool) :
      (m.groupMap.filterKeys wanted).entries.map (m.groupInfo ·.1) =
        (m.groupMap.keys.filter wanted).map m.groupInfo := by
    rw [Table.keys, List.filter_map, List.map_map]
    rfl
  rw [hkeys, Metadata.groupInfos_of_group]
  cases group.isEmpty with
  | true => exact congrArg (List.map m.groupInfo) (List.filter_eq_self.mpr fun _ _ => rfl)
  | false => rfl

theorem lookup_tells (group : String) : Tells m topics (lookup group)
    (if group.isEmpty then m.groupInfos else m.groupInfos.filter (·.group = group)) := by
  rw [← groupInfos_wanted]
  refine .bind (.note _ _ _) (.bind (groupMap_tells _) (groupInfos_tells _ _ fun e he => ?_))
  have hindexed := (m.groupMap.get?_eq_some_iff e.1 e.2).mpr (List.mem_filter.mp he).1
  rw [Metadata.groupMap_get?] at hindexed
  split at hindexed
  · cases hindexed
  · exact (Option.some.inj hindexed).symm

theorem single_tells {group queue : String} (hgroup : nameFault? group = none)
    (hqueue : nameFault? queue = none) (htopic : topics.contains queue) :
    Tells m topics (single group queue) ((m.record? group queue).map (·.inFull)) :=
  .bind (.bind (requireName_tells hgroup) (.bind (requireName_tells hqueue) (requireTopic_tells htopic)))
    (.bind (groupConfig_tells _ _ _) (.bind (.note _ _ _) (.pure _)))

end Groups

end ManagedQueue
