import ManagedQueue.Proofs.ArgumentChecks
import ManagedQueue.Proofs.CountedEvents
import ManagedQueue.Proofs.DeliveryOrder
import ManagedQueue.Proofs.RecordChanges

namespace ManagedQueue

def Reply.error? : Reply → Option ServiceError
  | .outcome (.ready (.error e)) | .started _ (.ready (.error e)) => some e
  | _ => none

/-- The operation of the service has failed, or has to wait. -/
def Reply.unserved : Reply → Bool
  | .outcome (.ready (.error _)) | .started _ (.ready (.error _)) => true
  | .outcome .pending | .started _ .pending => true
  | _ => false

theorem Reply.unserved_of_error {r : Reply} {e : ServiceError} (h : r.error? = some e) : r.unserved := by
  unfold error? at h
  split at h
  · rfl
  · rfl
  · cases h

/-- The event is a step of a receive of the group. -/
def Event.ReceivesFor (queue group : String) (h : Host) : Event → Prop
  | .start q g | .request (.receive q g) => q = queue ∧ g = group
  | .poll ticket => ∃ r, h.service.receives.get? ticket = some r ∧ r.queue = queue ∧ r.group = group
  | _ => False

namespace Host

variable {e : Event} {h : Host}

/-- The records after an operation that was not served. -/
inductive RecordsLeft (e : Event) (h : Host) : Metadata → Prop
  | kept (hcreate : ∀ queue, e = .request (.createQueue queue) →
        ¬ Lifecycle.ProvisionFails h.service.settings queue h.site)
      (hdelete : ∀ queue, e = .request (.deleteQueue queue) →
        ¬ Lifecycle.WithdrawFails h.service.settings queue h.site) :
      RecordsLeft e h h.site.backend.metadata
  | made (queue) (he : e = .request (.createQueue queue))
      (hfails : Lifecycle.ProvisionFails h.service.settings queue h.site)
      (hnew : h.site.backend.metadata.queues.get? queue = none) :
      RecordsLeft e h ⟨h.site.backend.metadata.queues.insert queue { ctime := h.site.backend.clock }⟩
  | dropped (queue) (he : e = .request (.deleteQueue queue))
      (hfails : Lifecycle.WithdrawFails h.service.settings queue h.site) :
      RecordsLeft e h ⟨h.site.backend.metadata.queues.erase queue⟩

/-- The table of sessions after an operation that was not served. -/
inductive SessionsLeft (e : Event) (h : Host) : NameMap Nat → Prop
  | kept (hclose : ∀ queue group, e = .request (.closeSession queue group) →
      h.service.lock.owner ≠ none) : SessionsLeft e h h.service.sessions
  | opened (queue group) (he : e.ReceivesFor queue group h)
      (hnew : h.service.sessions.get? (sessionKey queue group) = none) :
      SessionsLeft e h (h.service.sessions.insert (sessionKey queue group)
        h.site.backend.transport.sessions.length)
  | closing (queue group n error) (he : e = .request (.closeSession queue group))
      (hn : h.service.sessions.get? (sessionKey queue group) = some n)
      (hfails : (closeNow n h.site).1 = .error error) :
      SessionsLeft e h (h.service.sessions.erase (sessionKey queue group))

theorem happenings_of_unserved (hr : (step e h).1.unserved) : happenings e h = [] := by
  unfold happenings
  split
  all_goals first
    | rfl
    | next heq => simp [heq, Reply.unserved] at hr

theorem tallies_of_unserved (hr : (step e h).1.unserved) : tallies e h = [] := by
  unfold tallies
  split
  all_goals first
    | rfl
    | next heq => simp [heq, Reply.unserved] at hr
    | exact absurd hr (by simp [step, bind_apply, pure_apply, Reply.unserved])

theorem recordChanges_of_unserved (hr : (step e h).1.unserved)
    (hcreate : ∀ queue, e ≠ .request (.createQueue queue))
    (hdelete : ∀ queue, e ≠ .request (.deleteQueue queue)) : recordChanges e h = [] := by
  unfold recordChanges
  split
  · exact absurd rfl (hcreate _)
  · exact absurd rfl (hdelete _)
  all_goals first
    | rfl
    | next answer heq =>
        rw [heq] at hr
        cases answer with
        | error => rfl
        | ok => simp [Reply.unserved] at hr

theorem create_left {queue : String} (he : e = .request (.createQueue queue))
    (hr : (step e h).1.unserved) : RecordsLeft e h (step e h).2.site.backend.metadata := by
  have hc := Lifecycle.create_creates h.service.settings queue h.site
  subst he
  rw [step_create] at hr ⊢
  rcases hrun : Lifecycle.create h.service.settings queue h.site with ⟨answer, t⟩
  rw [hrun] at hc hr
  cases hc with
  | refused e _ hfirst hcall =>
      rw [hfirst.glance.metadata]
      exact .kept (fun q hq => by cases hq; exact hcall) (by simp)
  | stranded m e t text hs hm hcall ht =>
      have hwritten : t.backend.metadata = m := ht.metadata
      have hfree : h.site.backend.metadata.exist queue = false := (Backend.standing_eq_absent.mp hs).1
      have hnone : h.site.backend.metadata.queues.get? queue = none := by
        simpa [Metadata.exist, Table.contains] using hfree
      -- The record was written before the topic was refused, so it stays.
      change RecordsLeft _ _ t.backend.metadata
      rw [Metadata.addQueue, hfree] at hm
      cases hm
      rw [hwritten]
      exact .made queue rfl hcall hnone
  | created => cases hr

theorem delete_left {queue : String} (he : e = .request (.deleteQueue queue))
    (hr : (step e h).1.unserved) : RecordsLeft e h (step e h).2.site.backend.metadata := by
  have hd := Lifecycle.delete_deletes h.service.settings queue h.site
  subst he
  rw [step_delete] at hr ⊢
  rcases hrun : Lifecycle.delete h.service.settings queue h.site with ⟨answer, t⟩
  rw [hrun] at hd hr
  cases hd with
  | refused e _ hfirst hcall =>
      rw [hfirst.glance.metadata]
      exact .kept (by simp) (fun q hq => by cases hq; exact hcall)
  | stranded m e t text hs hm hcall ht =>
      have hwritten : t.backend.metadata = m := ht.metadata
      change RecordsLeft _ _ t.backend.metadata
      rw [Metadata.deleteQueue, (Backend.standing_eq_both.mp hs).1] at hm
      cases hm
      rw [hwritten]
      exact .dropped queue rfl hcall
  | deleted => cases hr

theorem records_left (hr : (step e h).1.unserved) :
    RecordsLeft e h (step e h).2.site.backend.metadata := by
  by_cases hcreate : ∃ queue, e = .request (.createQueue queue)
  · obtain ⟨queue, he⟩ := hcreate
    exact create_left he hr
  by_cases hdelete : ∃ queue, e = .request (.deleteQueue queue)
  · obtain ⟨queue, he⟩ := hdelete
    exact delete_left he hr
  have hchanges := step_changes e h
  rw [recordChanges_of_unserved hr (fun q hq => hcreate ⟨q, hq⟩) fun q hq => hdelete ⟨q, hq⟩] at hchanges
  generalize (step e h).2.site.backend.metadata = m at hchanges
  cases hchanges with
  | none => exact .kept (fun q hq => absurd ⟨q, hq⟩ hcreate) fun q hq => absurd ⟨q, hq⟩ hdelete

/-- Unless something is closed, the table stays as it is or gets one new session. -/
theorem Handles.unclosed {count : Nat} {before after : NameMap Nat} {D : List Deed}
    (hD : Handles count before after D) (hclose : ∀ n answer, .closing n answer ∉ D) :
    after = before ∨ ∃ queue group, .opened queue group count ∈ D ∧
      before.get? (sessionKey queue group) = none ∧
      after = before.insert (sessionKey queue group) count := by
  cases hD with
  | kept hafter => exact .inl hafter
  | found _ _ _ _ _ _ hafter => exact .inl hafter
  | opened queue group _ _ hn hafter => exact .inr ⟨queue, group, .head _, hn, hafter⟩
  | dropped keys closes hkeys hcloses =>
      left
      cases closes with
      | cons c rest => exact absurd (List.mem_append_right _ (.head _)) (hclose c.1 c.2)
      | nil =>
          apply Table.ext_get?
          intro key
          rw [hkeys]
          split
          · next hkey => exact (List.filterMap_eq_nil_iff.mp hcloses.symm key hkey).symm
          · rfl

theorem receivesFor_of_opened {queue group : String} {n : Nat}
    (hD : .opened queue group n ∈ deeds e h) : e.ReceivesFor queue group h := by
  obtain ⟨r, hacq, rfl, rfl⟩ := acquisition_of_opened hD
  obtain ⟨ticket, h₁, hc, -⟩ := acquisition_cases hacq
  rcases claimant_cases hc with ⟨rfl, -, hr, -⟩ | ⟨q, g, hevent, hrun⟩
  · exact ⟨r, hr, rfl, rfl⟩
  · have he := enter_enters q g h
    rw [hrun] at he
    obtain ⟨rfl, rfl⟩ := he.names
    rcases hevent with rfl | rfl <;> exact ⟨rfl, rfl⟩

theorem closings_of_unserved (hr : (step e h).1.unserved)
    (hclose : ∀ queue group, e ≠ .request (.closeSession queue group)) : closings e h = [] := by
  unfold closings
  split
  · exact absurd rfl (hclose _ _)
  · have hd := shutdown_shutsDown h
    rw [step_shutdown] at hr
    generalize shutdown h = out at hd hr
    rcases out with ⟨answer, h'⟩
    cases hd with
    | busy howner => rw [if_pos (Option.isSome_iff_ne_none.mpr howner)]
    | done => cases hr
  · rfl

theorem closeSession_left {queue group : String} (he : e = .request (.closeSession queue group))
    (hr : (step e h).1.unserved) : SessionsLeft e h (step e h).2.service.sessions := by
  have hc := closeSession_closes queue group h
  subst he
  rw [step_close] at hr ⊢
  generalize closeSession queue group h = out at hc hr ⊢
  rcases out with ⟨answer, h'⟩
  cases hc with
  | busy howner => exact .kept fun _ _ _ => howner
  | absent => cases hr
  | failed n error s hfree hn hclose =>
      exact .closing queue group n error rfl hn (by rw [hclose])
  | closed => cases hr

theorem sessions_left (hs : h.Sound) (hr : (step e h).1.unserved) :
    SessionsLeft e h (step e h).2.service.sessions := by
  by_cases hclose : ∃ queue group, e = .request (.closeSession queue group)
  · obtain ⟨queue, group, he⟩ := hclose
    exact closeSession_left he hr
  have hnone : closings e h = [] :=
    closings_of_unserved hr fun queue group he => hclose ⟨queue, group, he⟩
  have hunclosed := (step_handles hs e).unclosed fun n answer hmem => by
    rw [mem_deeds_closing, hnone] at hmem
    cases hmem
  obtain hkept | ⟨queue, group, hopened, hnew, hafter⟩ := hunclosed
  · rw [hkept]
    exact .kept fun queue group he => absurd ⟨queue, group, he⟩ hclose
  · rw [hafter]
    exact .opened queue group (receivesFor_of_opened hopened) hnew

/-- The step would be the same at any site, and leave it as it is. -/
def Untouched (e : Event) (h : Host) : Prop :=
  (step e h).2.service.sessions = h.service.sessions ∧
    ∀ t : Site, step e ⟨t, h.service⟩ = ((step e h).1, ⟨t, (step e h).2.service⟩)

theorem untouched_of_checksFirst {α : Type} {x : Operation α} (hx : Operation.ChecksFirst x)
    (answer : α → Answer) {message : String}
    (hstep : ∀ t : Site, step e ⟨t, h.service⟩ =
      (.outcome (.ready ((x t).1.map answer)), ⟨(x t).2, h.service⟩))
    (hr : (step e h).1.error? = some (.invalidArgument message)) : Untouched e h := by
  have hreply : step e h = _ := hstep h.site
  rw [hreply] at hr
  have hrefused : (x h.site).1 = .error (.invalidArgument message) := by
    rcases hanswer : (x h.site).1 with error | a
    · rw [hanswer] at hr
      exact congrArg Except.error (Option.some.inj hr)
    · rw [hanswer] at hr
      cases hr
  have hrun := hx h.site message hrefused
  unfold Untouched
  rw [hreply, hrefused]
  refine ⟨rfl, fun t => ?_⟩
  rw [hstep t, hrun t]

theorem LooksNow.source {ticket : Nat} {r : Receive} {session : Nat} {error : ServiceError} {h' : Host}
    (hl : LooksNow ticket r session h (.ready (.error error)) h') :
    ∃ source, error = Host.failed r source := by
  cases hl with
  | failed source => exact ⟨source, rfl⟩

/-- Once it has entered, a receive fails only because a collaborator does. -/
theorem Advances.source {ticket : Nat} {r : Receive} {error : ServiceError} {h' : Host}
    (ha : Advances ticket r h (.ready (.error error)) h') : ∃ source, error = failed r source := by
  cases ha with
  | woken _ _ _ _ _ _ hl => exact hl.source
  | served _ _ _ _ _ _ _ _ hl =>
      cases hl with
      | struck source => exact ⟨source, rfl⟩
      | looked _ _ _ hl => exact hl.source
  | refused source => exact ⟨source, rfl⟩

theorem enter_run (queue group : String) (h : Host) : enter queue group h =
    match checkReceive queue group h.site with
    | (.error error, s) => ((h.service.nextTicket, .error error),
        ⟨s, { h.service with nextTicket := h.service.nextTicket + 1 }⟩)
    | (.ok (), s) => ((h.service.nextTicket, .ok ⟨queue, group, .inLine⟩), ⟨s, { h.service with
        nextTicket := h.service.nextTicket + 1
        receives := h.service.receives.insert h.service.nextTicket ⟨queue, group, .inLine⟩
        lock := h.service.lock.ask h.service.nextTicket }⟩) := by
  unfold enter run
  rw [bind_apply, get_apply, bind_apply, modifyService_apply, bind_apply, onSite_apply]
  rcases checkReceive queue group h.site with ⟨error | ⟨⟩, s⟩ <;> rfl

theorem start_refused {queue group message : String}
    (hr : (start queue group h).1.2 = .ready (.error (.invalidArgument message))) (t : Site) :
    start queue group ⟨t, h.service⟩ =
      ((h.service.nextTicket, .ready (.error (.invalidArgument message))),
        ⟨t, { h.service with nextTicket := h.service.nextTicket + 1 }⟩) := by
  -- Past its checks a receive fails by a collaborator only, so the refusal came from the checks, and those
  -- look at the names before the site.
  have hadvance (i : Nat) (r : Receive) (h₁ : Host) :
      (advance i r h₁).1 ≠ .ready (.error (.invalidArgument message)) := by
    intro hanswer
    have ha := advance_advances i r h₁
    rw [hanswer] at ha
    obtain ⟨source, hsource⟩ := ha.source
    cases hsource
  have hchecked : (checkReceive queue group h.site).1 = .error (.invalidArgument message) := by
    rw [start_run, enter_run] at hr
    rcases hrun : checkReceive queue group h.site with ⟨error | ⟨⟩, s⟩
    · rw [hrun] at hr
      cases hr
      rfl
    · rw [hrun] at hr
      exact absurd hr (hadvance _ _ _)
  rw [start_run, enter_run]
  dsimp only
  rw [checkReceive_checksFirst queue group h.site message hchecked t]

theorem untouched_of_start {queue group message : String}
    (hr : (start queue group h).1.2 = .ready (.error (.invalidArgument message))) :
    Untouched (.start queue group) h ∧ Untouched (.request (.receive queue group)) h := by
  have hstart := start_refused hr
  have hreceive (t : Site) : receive queue group ⟨t, h.service⟩ =
      (.ready (.error (.invalidArgument message)),
        ⟨t, { h.service with nextTicket := h.service.nextTicket + 1 }⟩) := by
    rw [receive_run, hstart]
  have hstep (t : Site) := step_start queue group ⟨t, h.service⟩
  have hstep' (t : Site) := step_receive queue group ⟨t, h.service⟩
  simp only [hstart] at hstep
  simp only [hreceive] at hstep'
  constructor
  · have hown : step (.start queue group) h = _ := hstep h.site
    unfold Untouched
    rw [hown]
    exact ⟨rfl, hstep⟩
  · have hown : step (.request (.receive queue group)) h = _ := hstep' h.site
    unfold Untouched
    rw [hown]
    exact ⟨rfl, hstep'⟩

theorem error_received {answer : Poll Received} {error : ServiceError}
    (hr : Reply.error? (.outcome (received answer)) = some error) : answer = .ready (.error error) := by
  rcases answer with _ | other | payload
  · cases hr
  · cases hr
    rfl
  · cases hr

theorem receive_refused {queue group message : String}
    (hr : (step (.request (.receive queue group)) h).1.error? = some (.invalidArgument message)) :
    (start queue group h).1.2 = .ready (.error (.invalidArgument message)) := by
  rw [step_receive] at hr
  have hreceive := error_received hr
  rw [receive_run] at hreceive
  rcases hrun : start queue group h with ⟨⟨ticket, _ | answer⟩, h'⟩
  · rw [hrun] at hreceive
    cases hreceive
  · rw [hrun] at hreceive
    exact hreceive

theorem closeSession_unrefused {queue group message : String} :
    (step (.request (.closeSession queue group)) h).1.error? ≠ some (.invalidArgument message) := by
  intro hr
  have hc := closeSession_closes queue group h
  rw [step_close] at hr
  generalize closeSession queue group h = out at hc hr
  rcases out with ⟨answer, h'⟩
  cases hc <;> cases hr

theorem perform_untouched {q : Request} {message : String}
    (hr : (step (.request q) h).1.error? = some (.invalidArgument message)) :
    Untouched (.request q) h := by
  cases q with
  | createQueue queue =>
      exact untouched_of_checksFirst (Lifecycle.create_checksFirst h.service.settings queue)
        (fun _ => .done) (fun _ => rfl) hr
  | updateQueue queue =>
      exact untouched_of_checksFirst (Lifecycle.update_checksFirst queue) (fun _ => .done)
        (fun _ => rfl) hr
  | deleteQueue queue =>
      exact untouched_of_checksFirst (Lifecycle.delete_checksFirst h.service.settings queue)
        (fun _ => .done) (fun _ => rfl) hr
  | lookupQueue queue group =>
      exact untouched_of_checksFirst (Lifecycle.lookup_accepts queue group).checksFirst .queues
        (fun _ => rfl) hr
  | addGroup group queue access =>
      exact untouched_of_checksFirst (Groups.add_checksFirst group queue access) (fun _ => .done)
        (fun _ => rfl) hr
  | updateGroup group queue access =>
      exact untouched_of_checksFirst (Groups.update_checksFirst group queue access) (fun _ => .done)
        (fun _ => rfl) hr
  | deleteGroup group queue =>
      exact untouched_of_checksFirst (Groups.delete_checksFirst group queue) (fun _ => .done)
        (fun _ => rfl) hr
  | lookupGroup group =>
      exact untouched_of_checksFirst (Groups.lookup_accepts group).checksFirst .groups (fun _ => rfl) hr
  | getGroup group queue =>
      exact untouched_of_checksFirst (Groups.single_checksFirst group queue) .group (fun _ => rfl) hr
  | send queue group payload =>
      exact untouched_of_checksFirst (send_checksFirst queue group payload) (fun _ => .done)
        (fun _ => rfl) hr
  | receive queue group => exact (untouched_of_start (receive_refused hr)).2
  | acknowledge => cases hr
  | volume direction queue group window =>
      exact untouched_of_checksFirst (Volume.query_checksFirst direction queue group window) .series
        (fun _ => rfl) hr
  | audit => exact untouched_of_checksFirst Lifecycle.audit_accepts.checksFirst .findings (fun _ => rfl) hr
  | sessionCount =>
      have hreply : (step (.request .sessionCount) h).1 =
          .outcome ((sessionCount h).1.map (.ok <| .count ·)) := rfl
      rw [hreply] at hr
      cases hcount : (sessionCount h).1 <;> rw [hcount] at hr <;> cases hr
  | closeSession queue group => exact absurd hr closeSession_unrefused
  | shutdown =>
      rw [step_shutdown] at hr
      cases hdone : (shutdown h).1 <;> rw [hdone] at hr <;> cases hr

theorem untouched_of_refused {message : String}
    (hr : (step e h).1.error? = some (.invalidArgument message)) : Untouched e h := by
  cases e with
  | request q => exact perform_untouched hr
  | start queue group =>
      have hstart : (start queue group h).1.2 = .ready (.error (.invalidArgument message)) := by
        rw [step_start] at hr
        generalize start queue group h = out at hr ⊢
        rcases out with ⟨⟨ticket, _ | other | payload⟩, h'⟩ <;> cases hr
        rfl
      exact (untouched_of_start hstart).1
  | poll ticket =>
      rw [step_poll] at hr
      cases hout : h.service.receives.get? ticket with
      | none =>
          rw [poll_none hout] at hr
          cases hr
      | some r =>
          rw [poll_some hout] at hr
          have ha := advance_advances ticket r h
          rw [error_received hr] at ha
          obtain ⟨source, hsource⟩ := ha.source
          cases hsource
  | cancel | direct | condition => cases hr

/-- At any point of any run, with any failures: an operation of the service that fails, or that has to
wait, leaves topics, metrics and what is pending as they were. So it does the records, unless the
second write of a creation or a deletion failed, and the sessions, unless its receive has opened one
or the closing of one failed. An argument is refused before any collaborator is called. -/
theorem failure_leaves_no_trace (settings : Settings) (saved : Snapshot) (clock : Int64) (site : Site)
    (es : List Event) (e : Event) :
    let h := (steps es ⟨{ site with backend := saved.restore clock }, { settings }⟩).2
    let h' := (step e h).2
    ((step e h).1.unserved →
      h'.site.backend.registry.topics = h.site.backend.registry.topics ∧
      RecordsLeft e h h'.site.backend.metadata ∧
      h'.site.backend.metrics = h.site.backend.metrics ∧
      (∀ queue group, (Site.pending queue group h'.site).1 = (Site.pending queue group h.site).1) ∧
      SessionsLeft e h h'.service.sessions) ∧
    (∀ error, (step e h).1.error? = some error → (step e h).1.unserved) ∧
    ∀ message, (step e h).1.error? = some (.invalidArgument message) → Untouched e h := by
  intro h h'
  have hsound : h.Sound := steps_sound settings _ es
  refine ⟨fun hr => ?_, fun error => Reply.unserved_of_error, fun message => untouched_of_refused⟩
  have hstart := chronicle_evolves ⟨{ site with backend := saved.restore clock }, { settings }⟩
    (.start _ settings) es
  have hnumbered : h.site.backend.Numbered saved := hstart.numbered (Backend.restore_numbered saved clock)
  -- An event that serves nobody makes nothing happen, so the feeds stay as they are.
  have hevolves := step_evolves hsound e
  rw [happenings_of_unserved hr] at hevolves
  refine ⟨hevolves.topics (by simp), records_left hr, ?_, fun queue group => ?_, sessions_left hsound hr⟩
  · have hmetrics := step_metrics e h
    rw [tallies_of_unserved hr] at hmetrics
    exact hmetrics
  · rw [pending_undelivered, pending_undelivered]
    unfold Backend.undelivered
    rw [hevolves.feed_eq hnumbered]

end Host

end ManagedQueue
