import ManagedQueue.Proofs.HostMoves

namespace ManagedQueue

/-- A queue is recorded with the time, or its record goes with those of its groups; a group's record
is put or taken away. -/
inductive RecordChange where
  | made (queue : String) (time : Int64)
  | dropped (queue : String)
  | put (record : GroupRecord)
  | revoked (group queue : String)
deriving DecidableEq

/-- The changes that take one metadata store to another. -/
inductive Metadata.Changes (m : Metadata) : List RecordChange → Metadata → Prop
  | none : Changes m [] m
  | made {queue now m'} (h : m.addQueue queue now = .ok m') : Changes m [.made queue now] m'
  | dropped {queue m'} (h : m.deleteQueue queue = .ok m') : Changes m [.dropped queue] m'
  | added {record m'} (h : m.addGroup record = .ok m') : Changes m [.put record] m'
  | updated {record m'} (h : m.updateGroup record = .ok m') : Changes m [.put record] m'
  | revoked {group queue m'} (h : m.deleteGroup group queue = .ok m') :
      Changes m [.revoked group queue] m'

theorem Metadata.Changes.of_eq {m m' : Metadata} (h : m' = m) : m.Changes [] m' := by
  rw [h]
  exact .none

namespace Lifecycle

theorem WritesTopics.metadata {op queue : String} {change : Registry → Except CollaboratorError Registry}
    {answer : Except CollaboratorError Unit} {s t : Site} {result : Except ServiceError Unit}
    (h : WritesTopics op queue change answer s result t) : t.backend.metadata = s.backend.metadata := by
  cases h with
  | failed e t text _ ht => exact ht.metadata
  | written r _ _ _ ht => exact ht.metadata

theorem create_metadata (settings : Settings) (queue : String) (s : Site) :
    (create settings queue s).2.backend.metadata = (recordNew queue s).2.backend.metadata := by
  unfold create
  rw [Operation.bind_run]
  rcases recordNew queue s with ⟨e | ⟨⟩, t⟩
  · rfl
  · exact (secondWrite_writesTopics .createTopic "CreateQueue" queue
      (createTopic_registers queue settings.layout settings.registryAddress) _ _ t).metadata

theorem delete_metadata (settings : Settings) (queue : String) (s : Site) :
    (delete settings queue s).2.backend.metadata = (unrecord queue s).2.backend.metadata := by
  unfold delete
  rw [Operation.bind_run]
  rcases unrecord queue s with ⟨e | ⟨⟩, t⟩
  · rfl
  · exact (secondWrite_writesTopics .deleteTopic "DeleteQueue" queue
      (deleteTopic_registers queue settings.registryAddress) _ _ t).metadata

end Lifecycle

namespace Host

def ifDone {ε α : Type} (answer : Except ε α) (c : RecordChange) : List RecordChange :=
  match answer with
  | .ok _ => [c]
  | .error _ => []

/-- What a step does to the records. A queue's own record is the first of two writes, so it is made or
dropped even if the second fails. -/
def recordChanges (e : Event) (h : Host) : List RecordChange :=
  match e, (step e h).1 with
  | .request (.createQueue queue), _ =>
    ifDone (Lifecycle.recordNew queue h.site).1 (.made queue h.site.backend.clock)
  | .request (.deleteQueue queue), _ => ifDone (Lifecycle.unrecord queue h.site).1 (.dropped queue)
  | .request (.addGroup group queue access), .outcome (.ready answer)
  | .request (.updateGroup group queue access), .outcome (.ready answer) =>
    ifDone answer (.put (.ofAccess group queue access))
  | .request (.deleteGroup group queue), .outcome (.ready answer) =>
    ifDone answer (.revoked group queue)
  | .direct (.addQueue queue), .datum answer => ifDone answer (.made queue h.site.backend.clock)
  | .direct (.deleteQueue queue), .datum answer => ifDone answer (.dropped queue)
  | .direct (.addGroup record), .datum answer | .direct (.updateGroup record), .datum answer =>
    ifDone answer (.put record)
  | .direct (.deleteGroup group queue), .datum answer => ifDone answer (.revoked group queue)
  | _, _ => []

theorem create_changes (queue : String) (h : Host) :
    h.site.backend.metadata.Changes (recordChanges (.request (.createQueue queue)) h)
      (step (.request (.createQueue queue)) h).2.site.backend.metadata := by
  have hfirst := Lifecycle.recordNew_recordsNew queue h.site
  have hmetadata : (step (.request (.createQueue queue)) h).2.site.backend.metadata =
      (Lifecycle.recordNew queue h.site).2.backend.metadata :=
    Lifecycle.create_metadata h.service.settings queue h.site
  change Metadata.Changes _ (ifDone (Lifecycle.recordNew queue h.site).1 _) _
  rw [hmetadata]
  rcases hrun : Lifecycle.recordNew queue h.site with ⟨e | ⟨⟩, t⟩
  · rw [hrun] at hfirst
    exact .of_eq hfirst.glance.metadata
  · rw [hrun] at hfirst
    cases hfirst with
    | recorded m _ _ _ hm ht =>
        have hwritten : t.backend.metadata = m := ht.metadata
        rw [hwritten]
        exact .made hm

theorem delete_changes (queue : String) (h : Host) :
    h.site.backend.metadata.Changes (recordChanges (.request (.deleteQueue queue)) h)
      (step (.request (.deleteQueue queue)) h).2.site.backend.metadata := by
  have hfirst := Lifecycle.unrecord_unrecords queue h.site
  have hmetadata : (step (.request (.deleteQueue queue)) h).2.site.backend.metadata =
      (Lifecycle.unrecord queue h.site).2.backend.metadata :=
    Lifecycle.delete_metadata h.service.settings queue h.site
  change Metadata.Changes _ (ifDone (Lifecycle.unrecord queue h.site).1 _) _
  rw [hmetadata]
  rcases hrun : Lifecycle.unrecord queue h.site with ⟨e | ⟨⟩, t⟩
  · rw [hrun] at hfirst
    exact .of_eq hfirst.glance.metadata
  · rw [hrun] at hfirst
    cases hfirst with
    | removed m _ _ _ hm ht =>
        have hwritten : t.backend.metadata = m := ht.metadata
        rw [hwritten]
        exact .dropped hm

theorem records_changes {x : Operation Unit} {change : Backend → Except CollaboratorError Metadata}
    (hx : Operation.Records x change) {s : Site} {c : RecordChange}
    (hchange : ∀ {m}, change s.backend = .ok m → s.backend.metadata.Changes [c] m) :
    s.backend.metadata.Changes (ifDone (x s).1 c) (x s).2.backend.metadata := by
  have hrun := hx s
  rcases hr : x s with ⟨e | ⟨⟩, t⟩
  · rw [hr] at hrun
    exact .of_eq hrun.metadata
  · rw [hr] at hrun
    obtain ⟨m, hm, ht⟩ := hrun
    have hwritten : t.backend.metadata = m := ht.metadata
    rw [hwritten]
    exact hchange hm

theorem changeMetadata_changes {change : Backend → Except CollaboratorError Metadata} {s : Site}
    {c : RecordChange} (hchange : ∀ {m}, change s.backend = .ok m → s.backend.metadata.Changes [c] m) :
    s.backend.metadata.Changes (ifDone (Site.changeMetadata change s).1 c)
      (Site.changeMetadata change s).2.backend.metadata := by
  rw [Site.changeMetadata_run]
  cases hm : change s.backend with
  | error e => exact .none
  | ok m => exact hchange hm

theorem ifDone_map {ε α β : Type} (f : α → β) (answer : Except ε α) (c : RecordChange) :
    ifDone (answer.map f) c = ifDone answer c := by
  cases answer <;> rfl

theorem perform_changes (r : Request) (h : Host) :
    h.site.backend.metadata.Changes (recordChanges (.request r) h)
      (step (.request r) h).2.site.backend.metadata := by
  have hquiet (q : Request) (hq : q.writes = false) :
      (step (.request q) h).2.site.backend.metadata = h.site.backend.metadata :=
    (perform_moves hq h).traffic.metadata
  cases r with
  | createQueue queue => exact create_changes queue h
  | deleteQueue queue => exact delete_changes queue h
  | addGroup group queue access =>
      change Metadata.Changes _ (ifDone ((Groups.add group queue access h.site).1.map _) _) _
      rw [ifDone_map]
      exact records_changes (Groups.add_records group queue access) .added
  | updateGroup group queue access =>
      change Metadata.Changes _ (ifDone ((Groups.update group queue access h.site).1.map _) _) _
      rw [ifDone_map]
      exact records_changes (Groups.update_records group queue access) .updated
  | deleteGroup group queue =>
      change Metadata.Changes _ (ifDone ((Groups.delete group queue h.site).1.map _) _) _
      rw [ifDone_map]
      exact records_changes (Groups.delete_records group queue) .revoked
  | updateQueue | lookupQueue | lookupGroup | getGroup | send | receive | acknowledge | volume | audit
  | sessionCount | closeSession | shutdown => exact .of_eq (hquiet _ rfl)

theorem registers_metadata {task : Task (Except CollaboratorError Unit)}
    {change : Registry → Except CollaboratorError Registry} (htask : Lifecycle.Registers task change)
    (s : Site) : (task s).2.backend.metadata = s.backend.metadata := by
  have ht := htask s
  rcases hr : task s with ⟨e | ⟨⟩, t⟩
  · rw [hr] at ht
    exact ht.2.metadata
  · rw [hr] at ht
    obtain ⟨r, -, ht⟩ := ht
    exact ht.metadata

theorem direct_changes (d : Direct) (h : Host) :
    h.site.backend.metadata.Changes (recordChanges (.direct d) h)
      (step (.direct d) h).2.site.backend.metadata := by
  cases d with
  | addQueue queue =>
      change Metadata.Changes _ (ifDone ((Site.addQueue queue h.site).1.map _) _) _
      rw [ifDone_map]
      exact changeMetadata_changes .made
  | deleteQueue queue =>
      change Metadata.Changes _ (ifDone ((Site.deleteQueue queue h.site).1.map _) _) _
      rw [ifDone_map]
      exact changeMetadata_changes .dropped
  | addGroup record =>
      change Metadata.Changes _ (ifDone ((Site.addGroupConfig record h.site).1.map _) _) _
      rw [ifDone_map]
      exact changeMetadata_changes .added
  | updateGroup record =>
      change Metadata.Changes _ (ifDone ((Site.updateGroupConfig record h.site).1.map _) _) _
      rw [ifDone_map]
      exact changeMetadata_changes .updated
  | deleteGroup group queue =>
      change Metadata.Changes _ (ifDone ((Site.deleteGroupConfig group queue h.site).1.map _) _) _
      rw [ifDone_map]
      exact changeMetadata_changes .revoked
  | createTopic name layout =>
      exact .of_eq (registers_metadata
        (Lifecycle.createTopic_registers name layout Site.directAddress) h.site)
  | deleteTopic name =>
      exact .of_eq (registers_metadata (Lifecycle.deleteTopic_registers name Site.directAddress) h.site)
  | existTopic name force => exact .of_eq (Site.existTopic_glance name force h.site).metadata
  | listTopics force => exact .of_eq (Site.listTopics_glance force h.site).metadata
  | produce queue payload => exact .of_eq (Site.produce_traffic queue payload h.site).metadata
  | pending queue group => exact .of_eq (Site.pending_traffic queue group h.site).metadata
  | openSession addresses queue group =>
      exact .of_eq (Site.openSession_opens addresses queue group h.site).traffic.metadata
  | receive session => exact .of_eq (Site.look_looks session h.site).traffic.metadata
  | query direction queue group window =>
      exact .of_eq (Volume.siteQuery_glances direction queue group window h.site).metadata
  | topicInfo | existQueue | queueCreateTime | queueMap | groupMap | groupConfig | groupCount
  | sessionsOpened | close | record | total | snapshot => exact .none

/-- Every step, whatever fails in it. -/
theorem step_changes (e : Event) (h : Host) :
    h.site.backend.metadata.Changes (recordChanges e h) (step e h).2.site.backend.metadata := by
  cases e with
  | request r => exact perform_changes r h
  | start queue group => exact .of_eq (start_moves queue group h).traffic.metadata
  | poll ticket =>
      apply Metadata.Changes.of_eq
      rw [step_poll]
      exact (poll_moves ticket h).traffic.metadata
  | cancel ticket => exact .of_eq (cancel_moves ticket h).traffic.metadata
  | direct d => exact direct_changes d h
  | condition c => cases c <;> exact .none

end Host

end ManagedQueue
