import ManagedQueue.Proofs.HostMoves

namespace ManagedQueue

/-- A queue is created or deleted, or only the first of the two writes is made. -/
inductive Shift where
  | created
  | deleted
  | halfCreated
  | halfDeleted
deriving DecidableEq

namespace Shift

def source : Shift → Standing
  | .created | .halfCreated => .absent
  | .deleted | .halfDeleted => .both

def target : Shift → Standing
  | .created => .both
  | .deleted => .absent
  | .halfCreated => .metadataOnly
  | .halfDeleted => .brokerOnly

def half : Shift → Bool
  | .created | .deleted => false
  | .halfCreated | .halfDeleted => true

theorem source_ne_target (k : Shift) : k.source ≠ k.target := by
  cases k <;> decide

theorem target_inj {j k : Shift} (h : j.target = k.target) : j = k := by
  revert h
  cases j <;> cases k <;> decide

theorem half_iff (k : Shift) : k.half ↔ k.target = .metadataOnly ∨ k.target = .brokerOnly := by
  cases k <;> decide

end Shift

/-- Anything but a call of a collaborator past the service. -/
def Event.ofService : Event → Bool
  | .direct _ => false
  | _ => true

namespace Host

def standing (h : Host) (queue : String) : Standing := h.site.backend.standing queue

def causes (e : Event) (h : Host) (queue : String) : Shift → Prop
  | .created => e = .request (.createQueue queue) ∧ (step e h).1 = .outcome (.ready (.ok .done))
  | .deleted => e = .request (.deleteQueue queue) ∧ (step e h).1 = .outcome (.ready (.ok .done))
  | .halfCreated => e = .request (.createQueue queue) ∧
      Lifecycle.ProvisionFails h.service.settings queue h.site
  | .halfDeleted => e = .request (.deleteQueue queue) ∧
      Lifecycle.WithdrawFails h.service.settings queue h.site

end Host

namespace Site

structure Still (s t : Site) : Prop where
  standing : ∀ queue, t.backend.standing queue = s.backend.standing queue
  journal : ∃ more, t.journal = s.journal ++ more ∧ ∀ r ∈ more, r.level ≠ .error

theorem Traffic.still {s t : Site} (h : s.Traffic t) : Still s t :=
  ⟨fun _ => Backend.standing_eq (by rw [h.metadata]) (by rw [h.topics]), h.journal⟩

theorem Still.of_records {s t : Site} {m : Metadata} (h : (s.withMetadata m).Glance t)
    (hm : ∀ queue, m.exist queue = s.backend.metadata.exist queue) : Still s t := by
  refine ⟨fun queue => Backend.standing_eq ?_ (by rw [h.topics]; rfl), h.journal⟩
  rw [h.metadata]
  exact hm queue

end Site

namespace Metadata

variable {m m' : Metadata}

theorem exist_insert {queue : String} {old : QueueEntry} (h : m.queues.get? queue = some old)
    (entry : QueueEntry) (q : String) :
    ({ m with queues := m.queues.insert queue entry } : Metadata).exist q = m.exist q := by
  unfold exist
  rw [Table.contains_insert]
  by_cases hq : q = queue <;> simp [hq, Table.contains, h]

theorem addGroup_exist {r : GroupRecord} (h : m.addGroup r = .ok m') (queue : String) :
    m'.exist queue = m.exist queue := by
  unfold addGroup at h
  split at h
  · cases h
  · next entry hentry =>
    split at h
    · cases h
    · cases h
      exact exist_insert hentry _ queue

theorem updateGroup_exist {r : GroupRecord} (h : m.updateGroup r = .ok m') (queue : String) :
    m'.exist queue = m.exist queue := by
  unfold updateGroup at h
  split at h
  · cases h
  · next entry hentry =>
    split at h
    · cases h
      exact exist_insert hentry _ queue
    · cases h

theorem deleteGroup_exist {group name : String} (h : m.deleteGroup group name = .ok m')
    (queue : String) : m'.exist queue = m.exist queue := by
  unfold deleteGroup at h
  split at h
  · cases h
  · next entry hentry =>
    split at h
    · cases h
      exact exist_insert hentry _ queue
    · cases h

theorem addQueue_exist {name : String} {now : Int64} (h : m.addQueue name now = .ok m')
    (queue : String) : m'.exist queue = if queue = name then true else m.exist queue := by
  unfold addQueue at h
  split at h
  · cases h
  · cases h
    exact Table.contains_insert m.queues name queue _

theorem deleteQueue_exist {name : String} (h : m.deleteQueue name = .ok m') (queue : String) :
    m'.exist queue = if queue = name then false else m.exist queue := by
  unfold deleteQueue at h
  split at h
  · cases h
    exact Table.contains_erase m.queues name queue
  · cases h

end Metadata

namespace Registry

variable {r r' : Registry}

theorem create_contains {name : String} {layout : Layout} (h : r.create name layout = .ok r')
    (queue : String) :
    r'.topics.contains queue = if queue = name then true else r.topics.contains queue := by
  unfold create at h
  split at h
  · cases h
  · cases h
    exact Table.contains_insert r.topics name queue _

theorem delete_contains {name : String} (h : r.delete name = .ok r') (queue : String) :
    r'.topics.contains queue = if queue = name then false else r.topics.contains queue := by
  unfold delete at h
  split at h
  · cases h
    exact Table.contains_erase r.topics name queue
  · cases h

end Registry

namespace Host

open Lifecycle

/-- A step that moves this queue, and says so as an error if it leaves it in one store only. -/
structure Moved (e : Event) (h : Host) (queue : String) (k : Shift) (h' : Host) : Prop where
  cause : ∀ q j, causes e h q j ↔ q = queue ∧ j = k
  source : h.standing queue = k.source
  target : ∀ q, h'.standing q = if q = queue then k.target else h.standing q
  journal : ∃ more, h'.site.journal = h.site.journal ++ more ∧
    ((∃ r ∈ more, r.level = .error) ↔ k.half)

/-- A step that moves no queue. -/
structure Rests (e : Event) (h h' : Host) : Prop where
  cause : ∀ q j, ¬ causes e h q j
  still : h.site.Still h'.site

theorem rests_of_still {e : Event} {h h' : Host} (hcreate : ∀ queue, e ≠ .request (.createQueue queue))
    (hdelete : ∀ queue, e ≠ .request (.deleteQueue queue)) (hstill : h.site.Still h'.site) :
    Rests e h h' := by
  refine ⟨fun q j hc => ?_, hstill⟩
  cases j with
  | created | halfCreated => exact hcreate q hc.1
  | deleted | halfDeleted => exact hdelete q hc.1

theorem causes_create {queue : String} {h : Host} {answer : Except ServiceError Unit} {s : Site}
    (hrun : create h.service.settings queue h.site = (answer, s)) (q : String) (k : Shift) :
    causes (.request (.createQueue queue)) h q k ↔ q = queue ∧
      (k = .created ∧ answer = .ok () ∨
        k = .halfCreated ∧ ProvisionFails h.service.settings queue h.site) := by
  have hreply : (step (.request (.createQueue queue)) h).1 =
      .outcome (.ready (answer.map fun _ => .done)) := by rw [step_create, hrun]
  cases k with
  | created =>
      simp only [causes, hreply]
      cases answer <;> simp [Except.map, eq_comm]
  | halfCreated =>
      constructor
      · rintro ⟨he, hfails⟩
        cases he
        exact ⟨rfl, .inr ⟨rfl, hfails⟩⟩
      · rintro ⟨rfl, ⟨hk, -⟩ | ⟨-, hfails⟩⟩
        · cases hk
        · exact ⟨rfl, hfails⟩
  | deleted | halfDeleted => simp [causes]

theorem causes_delete {queue : String} {h : Host} {answer : Except ServiceError Unit} {s : Site}
    (hrun : delete h.service.settings queue h.site = (answer, s)) (q : String) (k : Shift) :
    causes (.request (.deleteQueue queue)) h q k ↔ q = queue ∧
      (k = .deleted ∧ answer = .ok () ∨
        k = .halfDeleted ∧ WithdrawFails h.service.settings queue h.site) := by
  have hreply : (step (.request (.deleteQueue queue)) h).1 =
      .outcome (.ready (answer.map fun _ => .done)) := by rw [step_delete, hrun]
  cases k with
  | deleted =>
      simp only [causes, hreply]
      cases answer <;> simp [Except.map, eq_comm]
  | halfDeleted =>
      constructor
      · rintro ⟨he, hfails⟩
        cases he
        exact ⟨rfl, .inr ⟨rfl, hfails⟩⟩
      · rintro ⟨rfl, ⟨hk, -⟩ | ⟨-, hfails⟩⟩
        · cases hk
        · exact ⟨rfl, hfails⟩
  | created | halfCreated => simp [causes]

theorem moved_of_writes {e : Event} {h h' : Host} {queue : String} {k : Shift} (recorded topic : Bool)
    (hcause : ∀ q j, causes e h q j ↔ q = queue ∧ j = k) (hsource : h.standing queue = k.source)
    (htarget : Standing.of recorded topic = k.target)
    (hmetadata : ∀ q, h'.site.backend.metadata.exist q =
      if q = queue then recorded else h.site.backend.metadata.exist q)
    (htopics : ∀ q, h'.site.backend.registry.topics.contains q =
      if q = queue then topic else h.site.backend.registry.topics.contains q)
    (hjournal : ∃ more, h'.site.journal = h.site.journal ++ more ∧
      ((∃ r ∈ more, r.level = .error) ↔ k.half)) : Moved e h queue k h' := by
  refine ⟨hcause, hsource, fun q => ?_, hjournal⟩
  unfold standing Backend.standing
  rw [hmetadata, htopics]
  by_cases hq : q = queue
  · rw [if_pos hq, if_pos hq, if_pos hq, htarget]
  · rw [if_neg hq, if_neg hq, if_neg hq]

theorem contains_kept {topics : Table String Topic} {queue : String} {topic : Bool}
    (h : topics.contains queue = topic) (q : String) :
    topics.contains q = if q = queue then topic else topics.contains q := by
  by_cases hq : q = queue
  · rw [if_pos hq, hq, h]
  · rw [if_neg hq]

theorem quiet_journal {s t : Site}
    (h : ∃ more, t.journal = s.journal ++ more ∧ ∀ r ∈ more, r.level ≠ .error) :
    ∃ more, t.journal = s.journal ++ more ∧ ((∃ r ∈ more, r.level = .error) ↔ false = true) := by
  obtain ⟨more, hmore, hlevel⟩ := h
  exact ⟨more, hmore, by simpa using hlevel⟩

theorem error_journal {s t : Site}
    (h : ∃ more, t.journal = s.journal ++ more ∧ ∀ r ∈ more, r.level ≠ .error) (text : String) :
    ∃ more, (Site.note .error .lifecycle text t).2.journal = s.journal ++ more ∧
      ((∃ r ∈ more, r.level = .error) ↔ true = true) := by
  obtain ⟨more, hmore, -⟩ := h
  refine ⟨more ++ [⟨.error, .lifecycle, text⟩], ?_, by simp⟩
  change t.journal ++ _ = _
  rw [hmore, List.append_assoc]

theorem create_shifts (queue : String) (h : Host) :
    Rests (.request (.createQueue queue)) h (step (.request (.createQueue queue)) h).2 ∨
    ∃ k, Moved (.request (.createQueue queue)) h queue k (step (.request (.createQueue queue)) h).2 := by
  have hc := create_creates h.service.settings queue h.site
  rw [step_create]
  rcases hrun : create h.service.settings queue h.site with ⟨answer, t⟩
  have hcause := causes_create hrun
  rw [hrun] at hc
  cases hc with
  | refused e _ hfirst hcall =>
      refine .inl ⟨fun q j => ?_, hfirst.glance.toTraffic.still⟩
      rw [hcause]
      simp [hcall]
  | stranded m e t text hs hm hcall ht =>
      -- The topic is written second: it is missing still, and only the record was made.
      have htopic := (Backend.standing_eq_absent.mp hs).2
      refine .inr ⟨.halfCreated, moved_of_writes true false ?_ hs rfl ?_ ?_ (error_journal ht.journal text)⟩
      · intro q j
        rw [hcause]
        simp [hcall]
      · intro q
        exact (congrArg (·.exist q) ht.metadata).trans (Metadata.addQueue_exist hm q)
      · intro q
        exact (congrArg (·.contains q) ht.topics).trans (contains_kept htopic q)
  | created m r _ hs hm hcall hr ht =>
      refine .inr ⟨.created, moved_of_writes true true ?_ hs rfl ?_ ?_ (quiet_journal ht.journal)⟩
      · intro q j
        rw [hcause]
        simp [hcall]
      · intro q
        exact (congrArg (·.exist q) ht.metadata).trans (Metadata.addQueue_exist hm q)
      · intro q
        exact (congrArg (·.contains q) ht.topics).trans (Registry.create_contains hr q)

theorem delete_shifts (queue : String) (h : Host) :
    Rests (.request (.deleteQueue queue)) h (step (.request (.deleteQueue queue)) h).2 ∨
    ∃ k, Moved (.request (.deleteQueue queue)) h queue k (step (.request (.deleteQueue queue)) h).2 := by
  have hd := delete_deletes h.service.settings queue h.site
  rw [step_delete]
  rcases hrun : delete h.service.settings queue h.site with ⟨answer, t⟩
  have hcause := causes_delete hrun
  rw [hrun] at hd
  cases hd with
  | refused e _ hfirst hcall =>
      refine .inl ⟨fun q j => ?_, hfirst.glance.toTraffic.still⟩
      rw [hcause]
      simp [hcall]
  | stranded m e t text hs hm hcall ht =>
      have htopic := (Backend.standing_eq_both.mp hs).2
      refine .inr ⟨.halfDeleted, moved_of_writes false true ?_ hs rfl ?_ ?_ (error_journal ht.journal text)⟩
      · intro q j
        rw [hcause]
        simp [hcall]
      · intro q
        exact (congrArg (·.exist q) ht.metadata).trans (Metadata.deleteQueue_exist hm q)
      · intro q
        exact (congrArg (·.contains q) ht.topics).trans (contains_kept htopic q)
  | deleted m r _ hs hm hcall hr ht =>
      refine .inr ⟨.deleted, moved_of_writes false false ?_ hs rfl ?_ ?_ (quiet_journal ht.journal)⟩
      · intro q j
        rw [hcause]
        simp [hcall]
      · intro q
        exact (congrArg (·.exist q) ht.metadata).trans (Metadata.deleteQueue_exist hm q)
      · intro q
        exact (congrArg (·.contains q) ht.topics).trans (Registry.delete_contains hr q)

theorem still_of_records {x : Operation Unit} {change : Backend → Except CollaboratorError Metadata}
    (hx : Operation.Records x change)
    (hchange : ∀ b m, change b = .ok m → ∀ queue, m.exist queue = b.metadata.exist queue) (s : Site) :
    s.Still (x s).2 := by
  have hs := hx s
  rcases hr : x s with ⟨e | ⟨⟩, t⟩
  · rw [hr] at hs
    exact hs.toTraffic.still
  · rw [hr] at hs
    obtain ⟨m, hm, ht⟩ := hs
    exact .of_records ht (hchange s.backend m hm)

/-- A step of the service moves one queue or none. -/
theorem step_shifts {e : Event} (he : e.ofService) (h : Host) :
    Rests e h (step e h).2 ∨ ∃ queue k, Moved e h queue k (step e h).2 := by
  have hquiet (r : Request) (hr : r.writes = false) :
      h.site.Still (step (.request r) h).2.site := (perform_moves hr h).traffic.still
  cases e with
  | direct => cases he
  | start queue group =>
      exact .inl (rests_of_still (by simp) (by simp) (start_moves queue group h).traffic.still)
  | poll ticket =>
      left
      apply rests_of_still (by simp) (by simp)
      rw [step_poll]
      exact (poll_moves ticket h).traffic.still
  | cancel ticket =>
      exact .inl (rests_of_still (by simp) (by simp) (cancel_moves ticket h).traffic.still)
  | condition c =>
      left
      apply rests_of_still (by simp) (by simp)
      cases c <;> exact ⟨fun _ => rfl, [], (List.append_nil _).symm, by simp⟩
  | request r =>
      cases r with
      | createQueue queue =>
          exact (create_shifts queue h).imp_right fun hk => ⟨queue, hk⟩
      | deleteQueue queue =>
          exact (delete_shifts queue h).imp_right fun hk => ⟨queue, hk⟩
      | addGroup group queue access =>
          left
          apply rests_of_still (by simp) (by simp)
          exact still_of_records (Groups.add_records group queue access)
            (fun _ _ hm => Metadata.addGroup_exist hm) h.site
      | updateGroup group queue access =>
          left
          apply rests_of_still (by simp) (by simp)
          exact still_of_records (Groups.update_records group queue access)
            (fun _ _ hm => Metadata.updateGroup_exist hm) h.site
      | deleteGroup group queue =>
          left
          apply rests_of_still (by simp) (by simp)
          exact still_of_records (Groups.delete_records group queue)
            (fun _ _ hm => Metadata.deleteGroup_exist hm) h.site
      | updateQueue | lookupQueue | lookupGroup | getGroup | send | receive | acknowledge | volume
      | audit | sessionCount | closeSession | shutdown =>
          exact .inl (rests_of_still (by simp) (by simp) (hquiet _ rfl))

/-- What holds of every step of a service, whatever fails in it. -/
structure KeepsStanding (e : Event) (h : Host) : Prop where
  shifts : ∀ queue, (step e h).2.standing queue = h.standing queue ∨
    ∃ k : Shift, h.standing queue = k.source ∧ (step e h).2.standing queue = k.target
  causes : ∀ queue (k : Shift),
    (h.standing queue = k.source ∧ (step e h).2.standing queue = k.target) ↔ causes e h queue k
  errors : ∃ more, (step e h).2.site.journal = h.site.journal ++ more ∧
    ((∃ r ∈ more, r.level = .error) ↔ ∃ queue, (step e h).2.standing queue ≠ h.standing queue ∧
      ((step e h).2.standing queue = .metadataOnly ∨ (step e h).2.standing queue = .brokerOnly))
  taken : ∀ queue, e = .request (.createQueue queue) → nameFault? queue = none →
    h.standing queue ≠ .absent →
      (step e h).1 = .outcome (.ready (.error (.alreadyExists "CreateQueue" queue))) ∨
      ∃ c error, h.site.struck c = some error ∧
        (step e h).1 = .outcome (.ready (.error (.collaborator "CreateQueue" queue none error)))
  missing : ∀ queue, e = .request (.deleteQueue queue) → nameFault? queue = none →
    h.standing queue ≠ .both →
      (step e h).1 = .outcome (.ready (.error (.notFound "DeleteQueue" queue none))) ∨
      ∃ c error, h.site.struck c = some error ∧
        (step e h).1 = .outcome (.ready (.error (.collaborator "DeleteQueue" queue none error)))

theorem create_taken {queue : String} {h : Host} (hname : nameFault? queue = none)
    (hstanding : h.standing queue ≠ .absent) :
    (step (.request (.createQueue queue)) h).1 =
        .outcome (.ready (.error (.alreadyExists "CreateQueue" queue))) ∨
      ∃ c error, h.site.struck c = some error ∧ (step (.request (.createQueue queue)) h).1 =
        .outcome (.ready (.error (.collaborator "CreateQueue" queue none error))) := by
  have hc := create_creates h.service.settings queue h.site
  rw [step_create]
  rcases hrun : create h.service.settings queue h.site with ⟨answer, t⟩
  rw [hrun] at hc
  cases hc with
  | refused e _ hfirst =>
      cases hfirst with
      | invalid fault hfault =>
          rw [hname] at hfault
          cases hfault
      | struck c error _ _ he => exact .inr ⟨c, error, he, rfl⟩
      | taken => exact .inl rfl
  | stranded _ _ _ _ hs => exact absurd hs hstanding
  | created _ _ _ hs => exact absurd hs hstanding

theorem delete_missing {queue : String} {h : Host} (hname : nameFault? queue = none)
    (hstanding : h.standing queue ≠ .both) :
    (step (.request (.deleteQueue queue)) h).1 =
        .outcome (.ready (.error (.notFound "DeleteQueue" queue none))) ∨
      ∃ c error, h.site.struck c = some error ∧ (step (.request (.deleteQueue queue)) h).1 =
        .outcome (.ready (.error (.collaborator "DeleteQueue" queue none error))) := by
  have hd := delete_deletes h.service.settings queue h.site
  rw [step_delete]
  rcases hrun : delete h.service.settings queue h.site with ⟨answer, t⟩
  rw [hrun] at hd
  cases hd with
  | refused e _ hfirst =>
      cases hfirst with
      | invalid fault hfault =>
          rw [hname] at hfault
          cases hfault
      | struck c error _ _ he => exact .inr ⟨c, error, he, rfl⟩
      | missing => exact .inl rfl
  | stranded _ _ _ _ hs => exact absurd hs hstanding
  | deleted _ _ _ hs => exact absurd hs hstanding

theorem Rests.keeps {e : Event} {h h' : Host} (hr : Rests e h h') :
    (∀ queue, h'.standing queue = h.standing queue ∨
      ∃ k : Shift, h.standing queue = k.source ∧ h'.standing queue = k.target) ∧
    ∀ queue (k : Shift),
      (h.standing queue = k.source ∧ h'.standing queue = k.target) ↔ causes e h queue k := by
  refine ⟨fun queue => .inl (hr.still.standing queue), fun queue k => ?_⟩
  constructor
  · rintro ⟨hsource, htarget⟩
    exact absurd (hsource.symm.trans ((hr.still.standing queue).symm.trans htarget)) k.source_ne_target
  · intro hc
    exact absurd hc (hr.cause queue k)

theorem Rests.errors {e : Event} {h h' : Host} (hr : Rests e h h') :
    ∃ more, h'.site.journal = h.site.journal ++ more ∧
      ((∃ r ∈ more, r.level = .error) ↔ ∃ queue, h'.standing queue ≠ h.standing queue ∧
        (h'.standing queue = .metadataOnly ∨ h'.standing queue = .brokerOnly)) := by
  obtain ⟨more, hmore, hlevel⟩ := hr.still.journal
  refine ⟨more, hmore, ?_⟩
  constructor
  · rintro ⟨r, hr, herror⟩
    exact absurd herror (hlevel r hr)
  · rintro ⟨queue, hne, -⟩
    exact absurd (hr.still.standing queue) hne

theorem Moved.keeps {e : Event} {h h' : Host} {queue : String} {k : Shift} (hm : Moved e h queue k h') :
    (∀ q, h'.standing q = h.standing q ∨
      ∃ j : Shift, h.standing q = j.source ∧ h'.standing q = j.target) ∧
    ∀ q (j : Shift), (h.standing q = j.source ∧ h'.standing q = j.target) ↔ causes e h q j := by
  -- The moves have distinct ends, so the two standings of the queue tell which one it was.
  refine ⟨fun q => ?_, fun q j => ?_⟩
  · rw [hm.target]
    by_cases hq : q = queue
    · rw [if_pos hq, hq]
      exact .inr ⟨k, hm.source, rfl⟩
    · exact .inl (if_neg hq)
  · rw [hm.target, hm.cause]
    by_cases hq : q = queue
    · rw [if_pos hq, hq, hm.source]
      constructor
      · rintro ⟨-, htarget⟩
        exact ⟨rfl, Shift.target_inj htarget.symm⟩
      · rintro ⟨-, rfl⟩
        exact ⟨rfl, rfl⟩
    · rw [if_neg hq]
      constructor
      · rintro ⟨hsource, htarget⟩
        exact absurd (hsource.symm.trans htarget) j.source_ne_target
      · rintro ⟨hqueue, -⟩
        exact absurd hqueue hq

theorem Moved.errors {e : Event} {h h' : Host} {queue : String} {k : Shift} (hm : Moved e h queue k h') :
    ∃ more, h'.site.journal = h.site.journal ++ more ∧
      ((∃ r ∈ more, r.level = .error) ↔ ∃ q, h'.standing q ≠ h.standing q ∧
        (h'.standing q = .metadataOnly ∨ h'.standing q = .brokerOnly)) := by
  obtain ⟨more, hmore, hlevel⟩ := hm.journal
  refine ⟨more, hmore, hlevel.trans ?_⟩
  rw [k.half_iff]
  constructor
  · intro htarget
    refine ⟨queue, ?_, ?_⟩
    · rw [hm.target, if_pos rfl, hm.source]
      exact k.source_ne_target.symm
    · rwa [hm.target, if_pos rfl]
  · rintro ⟨q, hne, htarget⟩
    rw [hm.target] at hne htarget
    by_cases hq : q = queue
    · rwa [if_pos hq] at htarget
    · rw [if_neg hq] at hne
      exact absurd rfl hne

theorem step_keepsStanding {e : Event} (he : e.ofService) (h : Host) : KeepsStanding e h := by
  have hmoves : (∀ queue, (step e h).2.standing queue = h.standing queue ∨
      ∃ k : Shift, h.standing queue = k.source ∧ (step e h).2.standing queue = k.target) ∧
      ∀ queue (k : Shift),
        (h.standing queue = k.source ∧ (step e h).2.standing queue = k.target) ↔ causes e h queue k := by
    obtain hr | ⟨queue, k, hm⟩ := step_shifts he h
    · exact hr.keeps
    · exact hm.keeps
  refine ⟨hmoves.1, hmoves.2, ?_, ?_, ?_⟩
  · obtain hr | ⟨queue, k, hm⟩ := step_shifts he h
    · exact hr.errors
    · exact hm.errors
  · rintro queue rfl hname hs
    exact create_taken hname hs
  · rintro queue rfl hname hs
    exact delete_missing hname hs

/-- Nothing repairs a queue that is in one store only. -/
theorem half_standing_kept {es : List Event} (hes : ∀ e ∈ es, e.ofService) (h : Host) (queue : String)
    (hhalf : h.standing queue = .metadataOnly ∨ h.standing queue = .brokerOnly) :
    (steps es h).2.standing queue = h.standing queue := by
  induction es generalizing h with
  | nil => rfl
  | cons e es ih =>
      obtain hstay | ⟨k, hsource, -⟩ := (step_keepsStanding (hes e (.head _)) h).shifts queue
      · have hrest := ih (fun f hf => hes f (.tail _ hf)) (step e h).2 (by rwa [hstay])
        exact hrest.trans hstay
      · rw [hsource] at hhalf
        cases k <;> rcases hhalf with hk | hk <;> cases hk

/-- From any host, whatever fails: a queue comes into both stores and leaves both when it is created
and deleted, stays in one store only when the second write fails, and then stays so for good. -/
theorem standing_lifecycle (h : Host) (es : List Event) (hes : ∀ e ∈ es, e.ofService) :
    (∀ before e after, es = before ++ e :: after → KeepsStanding e (steps before h).2) ∧
    ∀ queue, h.standing queue = .metadataOnly ∨ h.standing queue = .brokerOnly →
      (steps es h).2.standing queue = h.standing queue := by
  refine ⟨?_, half_standing_kept hes h⟩
  rintro before e after rfl
  exact step_keepsStanding (hes e (by simp)) _

/-- A deletion that failed half-way cannot be made good by creating or deleting the queue again. -/
theorem standing_after_failed_deletion :
    let h := (steps [.request (.createQueue "q"),
      .condition (.fault .deleteTopic ⟨⟨.unavailable, "down"⟩, 0, none⟩),
      .request (.deleteQueue "q")] ⟨{}, { settings := ⟨["broker"], "registry", 1, 1⟩ }⟩).2
    let es : List Event := [.request (.createQueue "q"), .condition (.heal .deleteTopic),
      .request (.deleteQueue "q")]
    (∀ e ∈ es, e.ofService) ∧ h.standing "q" = .brokerOnly ∧
      (steps es h).2.standing "q" = .brokerOnly := by
  intro h es
  have hes : ∀ e ∈ es, e.ofService := by decide
  have hhalf : h.standing "q" = .brokerOnly := rfl
  exact ⟨hes, hhalf, ((standing_lifecycle h es hes).2 "q" (.inr hhalf)).trans hhalf⟩

end Host

end ManagedQueue
