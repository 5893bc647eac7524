import ManagedQueue.Proofs.RecordChanges

namespace ManagedQueue

namespace RecordChange

/-- Whatever record the group had on the queue is gone or written over. -/
def settles (group queue : String) : RecordChange → Bool
  | .put r => r.group = group ∧ r.queue = queue
  | .revoked g q => g = group ∧ q = queue
  | .dropped q => q = queue
  | .made _ _ => false

def ofQueue (queue : String) : RecordChange → Bool
  | .made q _ | .dropped q => q = queue
  | .put _ | .revoked _ _ => false

def record? : RecordChange → Option GroupRecord
  | .put r => some r
  | _ => none

def time? : RecordChange → Option Int64
  | .made _ time => some time
  | _ => none

end RecordChange

/-- The record that the last write to the pair has put, if it put one. -/
def granted (group queue : String) (H : List RecordChange) : Option GroupRecord :=
  (H.filter (·.settles group queue)).getLast?.bind (·.record?)

/-- When the queue was recorded, unless that record is gone. -/
def madeAt (queue : String) (H : List RecordChange) : Option Int64 :=
  (H.filter (·.ofQueue queue)).getLast?.bind (·.time?)

theorem granted_concat (group queue : String) (H : List RecordChange) (c : RecordChange) :
    granted group queue (H ++ [c]) =
      if c.settles group queue then c.record? else granted group queue H := by
  unfold granted
  rw [List.filter_append]
  cases hc : c.settles group queue <;> simp [hc]

theorem madeAt_concat (queue : String) (H : List RecordChange) (c : RecordChange) :
    madeAt queue (H ++ [c]) = if c.ofQueue queue then c.time? else madeAt queue H := by
  unfold madeAt
  rw [List.filter_append]
  cases hc : c.ofQueue queue <;> simp [hc]

namespace Metadata

variable {m m' : Metadata} {entry : QueueEntry} {H D : List RecordChange}

def time? (m : Metadata) (queue : String) : Option Int64 := (m.queues.get? queue).map (·.ctime)

theorem createTime_eq (m : Metadata) (queue : String) :
    m.createTime queue = (m.time? queue).elim (.error (.missingQueue queue)) .ok := by
  unfold createTime time?
  cases m.queues.get? queue <;> rfl

theorem record?_insert (m : Metadata) (name : String) (entry : QueueEntry) (group queue : String) :
    record? ⟨m.queues.insert name entry⟩ group queue =
      if queue = name then entry.groups.get? group else m.record? group queue := by
  unfold record?
  rw [Table.get?_insert]
  split <;> rfl

theorem time?_insert (m : Metadata) (name : String) (entry : QueueEntry) (queue : String) :
    time? ⟨m.queues.insert name entry⟩ queue =
      if queue = name then some entry.ctime else m.time? queue := by
  unfold time?
  rw [Table.get?_insert]
  split <;> rfl

theorem record?_of_entry {queue : String} (hentry : m.queues.get? queue = some entry) (group : String) :
    m.record? group queue = entry.groups.get? group := by
  rw [record?, hentry]
  rfl

theorem record?_putRecord {r : GroupRecord} (hentry : m.queues.get? r.queue = some entry)
    (group queue : String) : (m.putRecord entry r).record? group queue =
      if r.group = group ∧ r.queue = queue then some r else m.record? group queue := by
  unfold putRecord
  rw [record?_insert, Table.get?_insert]
  by_cases hqueue : queue = r.queue
  · subst hqueue
    by_cases hgroup : group = r.group
    · simp [hgroup]
    · simp [hgroup, Ne.symm hgroup, record?_of_entry hentry]
  · simp [hqueue, Ne.symm hqueue]

theorem time?_putRecord {r : GroupRecord} (hentry : m.queues.get? r.queue = some entry) (queue : String) :
    (m.putRecord entry r).time? queue = m.time? queue := by
  unfold putRecord
  rw [time?_insert]
  split
  · next hqueue =>
    rw [hqueue, time?, hentry]
    rfl
  · rfl

theorem addGroup_ok {r : GroupRecord} (h : m.addGroup r = .ok m') :
    ∃ entry, m.queues.get? r.queue = some entry ∧ m' = m.putRecord entry r := by
  unfold addGroup at h
  split at h
  · cases h
  · next entry hentry =>
    split at h <;> cases h
    exact ⟨entry, hentry, rfl⟩

theorem updateGroup_ok {r : GroupRecord} (h : m.updateGroup r = .ok m') :
    ∃ entry, m.queues.get? r.queue = some entry ∧ m' = m.putRecord entry r := by
  unfold updateGroup at h
  split at h
  · cases h
  · next entry hentry =>
    split at h <;> cases h
    exact ⟨entry, hentry, rfl⟩

theorem deleteGroup_ok {group queue : String} (h : m.deleteGroup group queue = .ok m') :
    ∃ entry, m.queues.get? queue = some entry ∧
      m' = ⟨m.queues.insert queue { entry with groups := entry.groups.erase group }⟩ := by
  unfold deleteGroup at h
  split at h
  · cases h
  · next entry hentry =>
    split at h <;> cases h
    exact ⟨entry, hentry, rfl⟩

theorem addQueue_ok {queue : String} {now : Int64} (h : m.addQueue queue now = .ok m') :
    m.queues.get? queue = none ∧ m' = ⟨m.queues.insert queue { ctime := now }⟩ := by
  unfold addQueue at h
  split at h
  · cases h
  · next hfree =>
    cases h
    exact ⟨by simpa [exist, Table.contains] using hfree, rfl⟩

theorem deleteQueue_ok {queue : String} (h : m.deleteQueue queue = .ok m') :
    m' = ⟨m.queues.erase queue⟩ := by
  unfold deleteQueue at h
  split at h <;> cases h
  rfl

namespace Changes

theorem granted (h : m.Changes D m') {group queue : String}
    (hm : m.record? group queue = granted group queue H) :
    m'.record? group queue = ManagedQueue.granted group queue (H ++ D) := by
  -- The newest change settles the pair where it is about it; elsewhere the older history counts.
  cases h with
  | none => rwa [List.append_nil]
  | @made name now _ h =>
      obtain ⟨hfree, rfl⟩ := addQueue_ok h
      rw [granted_concat, record?_insert, ← hm]
      split
      · next hqueue =>
        rw [hqueue, record?, hfree]
        rfl
      · rfl
  | @dropped name _ h =>
      rw [deleteQueue_ok h, granted_concat, ← hm, record?, Table.get?_erase]
      by_cases hqueue : queue = name
      · simp [RecordChange.settles, RecordChange.record?, hqueue]
      · simp [RecordChange.settles, hqueue, Ne.symm hqueue, record?]
  | added h =>
      obtain ⟨entry, hentry, rfl⟩ := addGroup_ok h
      rw [granted_concat, ← hm, record?_putRecord hentry]
      simp [RecordChange.settles, RecordChange.record?]
  | updated h =>
      obtain ⟨entry, hentry, rfl⟩ := updateGroup_ok h
      rw [granted_concat, ← hm, record?_putRecord hentry]
      simp [RecordChange.settles, RecordChange.record?]
  | @revoked g name _ h =>
      obtain ⟨entry, hentry, rfl⟩ := deleteGroup_ok h
      rw [granted_concat, ← hm, record?_insert]
      by_cases hqueue : queue = name
      · subst hqueue
        by_cases hgroup : group = g
        · simp [RecordChange.settles, RecordChange.record?, hgroup]
        · simp [RecordChange.settles, Table.get?_erase, hgroup, Ne.symm hgroup, record?_of_entry hentry]
      · simp [RecordChange.settles, hqueue, Ne.symm hqueue]

theorem madeAt (h : m.Changes D m') {queue : String} (hm : m.time? queue = madeAt queue H) :
    m'.time? queue = ManagedQueue.madeAt queue (H ++ D) := by
  cases h with
  | none => rwa [List.append_nil]
  | @made name now _ h =>
      obtain ⟨-, rfl⟩ := addQueue_ok h
      rw [madeAt_concat, time?_insert, ← hm]
      simp [RecordChange.ofQueue, RecordChange.time?, eq_comm]
  | @dropped name _ h =>
      rw [deleteQueue_ok h, madeAt_concat, ← hm, time?, Table.get?_erase]
      by_cases hqueue : queue = name
      · simp [RecordChange.ofQueue, RecordChange.time?, hqueue]
      · simp [RecordChange.ofQueue, hqueue, Ne.symm hqueue, time?]
  | added h =>
      obtain ⟨entry, hentry, rfl⟩ := addGroup_ok h
      rw [madeAt_concat, ← hm, time?_putRecord hentry]
      rfl
  | updated h =>
      obtain ⟨entry, hentry, rfl⟩ := updateGroup_ok h
      rw [madeAt_concat, ← hm, time?_putRecord hentry]
      rfl
  | @revoked g name _ h =>
      obtain ⟨entry, hentry, rfl⟩ := deleteGroup_ok h
      rw [madeAt_concat, ← hm, time?_insert]
      split
      · next hqueue =>
        rw [hqueue, time?, hentry]
        rfl
      · rfl

end Changes

end Metadata

/-- The operations that write the record of one pair. -/
inductive AccessWrite where
  | add (access : Access)
  | update (access : Access)
  | delete
deriving DecidableEq

namespace AccessWrite

def request (group queue : String) : AccessWrite → Request
  | .add access => .addGroup group queue access
  | .update access => .updateGroup group queue access
  | .delete => .deleteGroup group queue

def operation : AccessWrite → String
  | .add _ => "AddGroup"
  | .update _ => "UpdateGroup"
  | .delete => "DeleteGroup"

def call : AccessWrite → Call
  | .add _ => .addGroupConfig
  | .update _ => .updateGroupConfig
  | .delete => .deleteGroupConfig

def record? (group queue : String) : AccessWrite → Option GroupRecord
  | .add access | .update access => some (.ofAccess group queue access)
  | .delete => none

def present : AccessWrite → Bool
  | .add _ => false
  | .update _ | .delete => true

def write (group queue : String) (m : Metadata) : AccessWrite → Except CollaboratorError Metadata
  | .add access => m.addGroup (.ofAccess group queue access)
  | .update access => m.updateGroup (.ofAccess group queue access)
  | .delete => m.deleteGroup group queue

/-- Why the store refuses the write of a pair whose queue is recorded. -/
def conflict (group queue : String) : AccessWrite → CollaboratorError
  | .add _ => ⟨.conflict, s!"group '{group}' on queue '{queue}'"⟩
  | .update _ | .delete => .missingGroup group queue

/-- The answer, from whether the queue has a topic, whether it is recorded and whether the pair has a
record. -/
def answer (group queue : String) (w : AccessWrite) (topic recorded present : Bool) :
    Except ServiceError Unit :=
  if !topic then .error (.notFound w.operation queue none)
  else if !recorded then .error (.collaborator w.operation queue (some group) (.missingQueue queue))
  else if present ≠ w.present then
    .error (.collaborator w.operation queue (some group) (w.conflict group queue))
  else .ok ()

variable {m m' : Metadata} {group queue : String}

theorem write_cases (w : AccessWrite) (group queue : String) (m : Metadata) :
    (m.exist queue = false ∧ w.write group queue m = .error (.missingQueue queue)) ∨
    (m.exist queue = true ∧ (m.record? group queue).isSome ≠ w.present ∧
      w.write group queue m = .error (w.conflict group queue)) ∨
    (m.exist queue = true ∧ (m.record? group queue).isSome = w.present ∧
      ∃ m', w.write group queue m = .ok m') := by
  unfold Metadata.exist Table.contains
  cases hentry : m.queues.get? queue with
  | none =>
      left
      cases w <;>
        simp [write, Metadata.addGroup, Metadata.updateGroup, Metadata.deleteGroup,
          GroupRecord.ofAccess, hentry]
  | some entry =>
      right
      rw [Metadata.record?_of_entry hentry]
      cases hrecord : entry.groups.get? group <;> cases w <;>
        simp [write, present, conflict, Metadata.addGroup, Metadata.updateGroup, Metadata.deleteGroup,
          GroupRecord.ofAccess, hentry, Table.contains, hrecord]

theorem answer_of_write (w : AccessWrite) (group queue : String) (m : Metadata) :
    w.answer group queue true (m.exist queue) (m.record? group queue).isSome =
      match w.write group queue m with
      | .ok _ => .ok ()
      | .error e => .error (.collaborator w.operation queue (some group) e) := by
  obtain ⟨hrecorded, hwrite⟩ | ⟨hrecorded, hpresent, hwrite⟩ | ⟨hrecorded, hpresent, m', hwrite⟩ :=
    w.write_cases group queue m
  · simp [answer, hrecorded, hwrite]
  · simp [answer, hrecorded, hpresent, hwrite]
  · simp [answer, hrecorded, hpresent, hwrite]

/-- A write that is made changes the record of its pair and nothing else. -/
theorem write_changes (w : AccessWrite) (h : w.write group queue m = .ok m') :
    (∀ q, m'.time? q = m.time? q) ∧
    ∀ g q, m'.record? g q = if group = g ∧ queue = q then w.record? group queue else m.record? g q := by
  cases w with
  | add access =>
      obtain ⟨entry, hentry, rfl⟩ := Metadata.addGroup_ok h
      exact ⟨Metadata.time?_putRecord hentry, Metadata.record?_putRecord hentry⟩
  | update access =>
      obtain ⟨entry, hentry, rfl⟩ := Metadata.updateGroup_ok h
      exact ⟨Metadata.time?_putRecord hentry, Metadata.record?_putRecord hentry⟩
  -- A deletion writes the entry back without the record, so its time stays.
  | delete =>
      obtain ⟨entry, hentry, rfl⟩ := Metadata.deleteGroup_ok h
      refine ⟨fun q => ?_, fun g q => ?_⟩
      · rw [Metadata.time?_insert]
        split
        · next hqueue =>
          rw [hqueue, Metadata.time?, hentry]
          rfl
        · rfl
      · rw [Metadata.record?_insert]
        by_cases hqueue : q = queue
        · subst hqueue
          by_cases hgroup : g = group
          · simp [hgroup, record?]
          · simp [hgroup, Ne.symm hgroup, Table.get?_erase, Metadata.record?_of_entry hentry]
        · simp [hqueue, Ne.symm hqueue]

end AccessWrite

open Operation

namespace Groups

theorem checkNames_run (op : String) {group queue : String} (hgroup : nameFault? group = none)
    (hqueue : nameFault? queue = none) {s : Site} (hstruck : s.struck .existTopic = none) :
    ∃ t, s.Glance t ∧ (∀ c, c ≠ .existTopic → t.struck c = s.struck c) ∧
      checkNames op group queue s = (if s.backend.registry.topics.contains queue then .ok ()
        else .error (.notFound op queue none), t) := by
  unfold checkNames
  rw [bind_of_ok (requireName_of_none hgroup s), bind_of_ok (requireName_of_none hqueue s)]
  obtain ⟨e, he, -⟩ | htopic := requireTopic_cases op queue s
  · rw [hstruck] at he
    cases he
  · exact htopic

end Groups

namespace AccessWrite

def perform (group queue : String) : AccessWrite → Operation Unit
  | .add access => Groups.add group queue access
  | .update access => Groups.update group queue access
  | .delete => Groups.delete group queue

theorem perform_eq (w : AccessWrite) (group queue : String) : ∃ report, w.perform group queue =
    (do
      Groups.checkNames w.operation group queue
      Operation.call w.call (.collaborator w.operation queue (some group))
        (Site.changeMetadata fun b => w.write group queue b.metadata)
      note .info .groups report) := by
  cases w <;> exact ⟨_, rfl⟩

/-- What a write of a pair answers and leaves, unless a failure of one of its calls is planned. -/
inductive Runs (group queue : String) (w : AccessWrite) (s : Site) : Except ServiceError Unit → Site → Prop
  | refused (e t) (ht : s.Glance t) : Runs group queue w s (.error e) t
  | written (m t) (hm : w.write group queue s.backend.metadata = .ok m) (ht : (s.withMetadata m).Glance t) :
      Runs group queue w s (.ok ()) t

theorem perform_runs (w : AccessWrite) {group queue : String} (hgroup : nameFault? group = none)
    (hqueue : nameFault? queue = none) {s : Site} (htopic : s.struck .existTopic = none)
    (hcall : s.struck w.call = none) :
    let answer := w.answer group queue (s.backend.registry.topics.contains queue)
      (s.backend.metadata.exist queue) (s.backend.metadata.record? group queue).isSome
    ∃ t, w.perform group queue s = (answer, t) ∧ Runs group queue w s answer t := by
  obtain ⟨report, hperform⟩ := w.perform_eq group queue
  obtain ⟨t, ht, hstruck, hcheck⟩ := Groups.checkNames_run w.operation hgroup hqueue htopic
  have hown : t.struck w.call = none := by
    rw [hstruck _ (by cases w <;> simp [AccessWrite.call]), hcall]
  intro answer
  cases hc : s.backend.registry.topics.contains queue with
  | false =>
      rw [hc] at hcheck
      have hanswer : answer = .error (.notFound w.operation queue none) := by
        simp only [answer, AccessWrite.answer, hc]
        rfl
      rw [hanswer, hperform]
      exact ⟨t, bind_of_error hcheck _, .refused _ _ ht⟩
  | true =>
      rw [hc] at hcheck
      rw [hperform, bind_of_ok hcheck]
      -- The checks have only looked, so the write sees the metadata of the start.
      have hwrite := write_glanced ht (hown.trans hcall.symm)
        (.collaborator w.operation queue (some group)) (fun b => w.write group queue b.metadata)
        (by rw [ht.metadata])
      have hanswer : answer = match w.write group queue s.backend.metadata with
          | .ok _ => .ok ()
          | .error e => .error (.collaborator w.operation queue (some group) e) := by
        simp only [answer, hc]
        exact w.answer_of_write group queue s.backend.metadata
      rw [hanswer]
      obtain ⟨e, u, he, hu, hr⟩ | ⟨m, u, hm, hu, hr⟩ := hwrite
      · have hrefused : w.write group queue s.backend.metadata = .error e := by
          rcases he with he | he
          · rw [hcall] at he
            cases he
          · exact he
        rw [hrefused, bind_of_error hr]
        exact ⟨u, rfl, .refused _ _ hu⟩
      · have hwritten : w.write group queue s.backend.metadata = .ok m := hm
        rw [hwritten, bind_of_ok hr]
        exact ⟨_, rfl, .written m _ hm (hu.trans (.note u (by decide) _ _))⟩

end AccessWrite

namespace Groups

theorem single_run {group queue : String} (hgroup : nameFault? group = none)
    (hqueue : nameFault? queue = none) {s : Site} (htopic : s.struck .existTopic = none)
    (hcall : s.struck .groupConfig = none) :
    (single group queue s).1 = if s.backend.registry.topics.contains queue then
      .ok ((s.backend.metadata.record? group queue).map (·.inFull))
      else .error (.notFound "GetSingleGroup" queue none) := by
  obtain ⟨t, ht, hstruck, hcheck⟩ := checkNames_run "GetSingleGroup" hgroup hqueue htopic
  unfold single
  cases hc : s.backend.registry.topics.contains queue with
  | false =>
      rw [hc] at hcheck
      rw [bind_of_error hcheck]
      rfl
  | true =>
      rw [hc] at hcheck
      have hread : groupConfig "GetSingleGroup" group queue t =
          (.ok (s.backend.metadata.record? group queue), t.counted .groupConfig) := by
        unfold groupConfig
        rw [ask_run, hstruck _ (by decide), hcall, ← ht.metadata]
        rfl
      rw [bind_of_ok hcheck, bind_of_ok hread]
      rfl

end Groups

namespace Host

theorem step_accessWrite (w : AccessWrite) (group queue : String) (h : Host) :
    step (.request (w.request group queue)) h =
      (.outcome (.ready ((w.perform group queue h.site).1.map fun _ => .done)),
        ⟨(w.perform group queue h.site).2, h.service⟩) := by
  cases w <;> rfl

theorem step_getGroup (group queue : String) (h : Host) :
    (step (.request (.getGroup group queue)) h).1 =
      .outcome (.ready ((Groups.single group queue h.site).1.map .group)) := rfl

theorem dropped_iff (queue : String) (h : Host) :
    .dropped queue ∈ recordChanges (.request (.deleteQueue queue)) h ↔
      (step (.request (.deleteQueue queue)) h).1 = .outcome (.ready (.ok .done)) ∨
        Lifecycle.WithdrawFails h.service.settings queue h.site := by
  have hchange : recordChanges (.request (.deleteQueue queue)) h =
      ifDone (Lifecycle.unrecord queue h.site).1 (.dropped queue) := rfl
  rw [hchange, step_delete]
  unfold Lifecycle.delete
  rw [bind_run]
  rcases hrun : Lifecycle.unrecord queue h.site with ⟨e | ⟨⟩, t⟩
  · have hfails : ¬ Lifecycle.WithdrawFails h.service.settings queue h.site :=
      Lifecycle.not_fails_of_error hrun
    simp [ifDone, hfails, Except.map]
  -- The record is gone by now, whatever becomes of the topic.
  · have hsecond := Lifecycle.secondWrite_writesTopics .deleteTopic "DeleteQueue" queue
      (Lifecycle.deleteTopic_registers queue h.service.settings.registryAddress)
      (fun e => s!"queue '{queue}' removed from metadata but broker topic deletion failed: {e.message}")
      s!"deleted queue '{queue}'" t
    change Lifecycle.WritesTopics _ _ _ _ t (Lifecycle.withdraw h.service.settings queue t).1
      (Lifecycle.withdraw h.service.settings queue t).2 at hsecond
    refine iff_of_true (.head _) ?_
    dsimp only
    generalize Lifecycle.withdraw h.service.settings queue t = out at hsecond ⊢
    rcases out with ⟨answer, u⟩
    cases hsecond with
    | failed e _ _ he => exact .inr ⟨t, e, hrun, he⟩
    | written => exact .inl rfl

theorem chronicle_records (settings : Settings) (clock : Int64) (site : Site) (es : List Event) :
    let start : Host := ⟨{ site with backend := .fresh clock }, { settings }⟩
    let H := chronicle recordChanges es start
    let m := (steps es start).2.site.backend.metadata
    (∀ group queue, m.record? group queue = granted group queue H) ∧
      ∀ queue, m.time? queue = madeAt queue H := by
  intro start
  refine chronicle_keep (f := recordChanges) (H := []) (h := start)
    (P := fun H h => (∀ group queue, h.site.backend.metadata.record? group queue = granted group queue H) ∧
      ∀ queue, h.site.backend.metadata.time? queue = madeAt queue H) (fun H h e hP => ?_) es
    ⟨fun _ _ => rfl, fun _ => rfl⟩
  have hchanges := step_changes e h
  exact ⟨fun group queue => hchanges.granted (hP.1 group queue), fun queue => hchanges.madeAt (hP.2 queue)⟩

/-- In every run from an empty backend, with any failures and any calls past the service: the records
of groups and the times of queues are what the last write of each left. A write of a pair through the
service is answered from the table of topics and these records, and changes that pair alone. The record
of a pair is given to who asks for it if the queue has a topic, and then as the last write left it. -/
theorem group_access_map (settings : Settings) (clock : Int64) (site : Site) (es : List Event) :
    let start : Host := ⟨{ site with backend := .fresh clock }, { settings }⟩
    let H := chronicle recordChanges es start
    let h := (steps es start).2
    let m := h.site.backend.metadata
    let topic := h.site.backend.registry.topics.contains
    (∀ group queue, m.record? group queue = granted group queue H) ∧
    (∀ queue, m.createTime queue = (madeAt queue H).elim (.error (.missingQueue queue)) .ok) ∧
    (∀ (w : AccessWrite) (group queue : String), nameFault? group = none → nameFault? queue = none →
      h.site.struck .existTopic = none → h.site.struck w.call = none →
      let answer := w.answer group queue (topic queue) (m.exist queue) (m.record? group queue).isSome
      let next := step (.request (w.request group queue)) h
      next.1 = .outcome (.ready (answer.map fun _ => .done)) ∧
      next.2.service = h.service ∧
      next.2.site.backend.registry.topics = h.site.backend.registry.topics ∧
      next.2.site.backend.transport = h.site.backend.transport ∧
      next.2.site.backend.metrics = h.site.backend.metrics ∧
      (∀ q, next.2.site.backend.metadata.createTime q = m.createTime q) ∧
      ∀ g q, next.2.site.backend.metadata.record? g q =
        if answer.isOk ∧ group = g ∧ queue = q then w.record? group queue else m.record? g q) ∧
    (∀ group queue, nameFault? group = none → nameFault? queue = none →
      h.site.struck .existTopic = none → h.site.struck .groupConfig = none →
      (step (.request (.getGroup group queue)) h).1 = .outcome (.ready
        (if topic queue then .ok (.group ((granted group queue H).map (·.inFull)))
          else .error (.notFound "GetSingleGroup" queue none)))) ∧
    ∀ queue, .dropped queue ∈ recordChanges (.request (.deleteQueue queue)) h ↔
      (step (.request (.deleteQueue queue)) h).1 = .outcome (.ready (.ok .done)) ∨
        Lifecycle.WithdrawFails h.service.settings queue h.site := by
  intro start H h m topic
  obtain ⟨hrecords, htimes⟩ := chronicle_records settings clock site es
  refine ⟨hrecords, fun queue => ?_, fun w group queue hgroup hqueue htopic hcall => ?_,
    fun group queue hgroup hqueue htopic hcall => ?_, fun queue => dropped_iff queue h⟩
  · rw [Metadata.createTime_eq, htimes]
  · obtain ⟨t, hrun, hruns⟩ := w.perform_runs hgroup hqueue htopic hcall
    intro answer next
    have hnext : next = (.outcome (.ready (answer.map fun _ => .done)), ⟨t, h.service⟩) := by
      change step _ h = _
      rw [step_accessWrite, hrun]
    change AccessWrite.Runs group queue w h.site answer t at hruns
    rw [hnext]
    generalize answer = a at hruns ⊢
    refine ⟨rfl, rfl, ?_⟩
    cases hruns with
    | refused e t ht =>
        refine ⟨ht.topics, ht.transport, ht.metrics, fun q => by rw [ht.metadata], fun g q => ?_⟩
        rw [ht.metadata, if_neg (by simp [Except.isOk, Except.toBool])]
    | written m' t hm ht =>
        have hmetadata : t.backend.metadata = m' := ht.metadata
        obtain ⟨htime, hrecord⟩ := w.write_changes hm
        refine ⟨ht.topics, ht.transport, ht.metrics, fun q => ?_, fun g q => ?_⟩
        · rw [hmetadata, Metadata.createTime_eq, Metadata.createTime_eq, htime]
        · rw [hmetadata, hrecord]
          simp [m, Except.isOk, Except.toBool]
  · rw [step_getGroup, Groups.single_run hgroup hqueue htopic hcall, hrecords]
    change Reply.outcome (.ready (Except.map _ (if topic queue then _ else _))) = _
    split <;> rfl

end Host

end ManagedQueue
