import ManagedQueue.Proofs.QueueWrites
import ManagedQueue.Proofs.ReceiveStages
import Mathlib.Logic.Relation

namespace ManagedQueue

namespace Host

/-- The elementary moves, where tasks at the site are related by `R`. -/
inductive Move (R : Site → Site → Prop) : Host → Host → Prop
  | task (h s) (hs : R h.site s) : Move R h ⟨s, h.service⟩
  | enter (queue group h a h') (ha : Enters queue group h a h') : Move R h h'
  | advance (ticket r h a h') (hr : h.service.receives.get? ticket = some r)
      (ha : Advances ticket r h a h') : Move R h h'
  | cancel (ticket r h) (hr : h.service.receives.get? ticket = some r) :
      Move R h ⟨h.site, { h.service with
        receives := h.service.receives.erase ticket, lock := h.service.lock.leave ticket }⟩
  | drop (key h) (hfree : h.service.lock.owner = none) :
      Move R h ⟨h.site, { h.service with sessions := h.service.sessions.erase key }⟩
  | clear (h) (hfree : h.service.lock.owner = none) :
      Move R h ⟨h.site, { h.service with sessions := ∅ }⟩

abbrev Moves (R : Site → Site → Prop) := Relation.ReflTransGen (Move R)

theorem Move.mono {R Q : Site → Site → Prop} (hRQ : ∀ s t, R s t → Q s t) {h h' : Host}
    (hm : Move R h h') : Move Q h h' := by
  cases hm with
  | task _ s hs => exact .task h s (hRQ _ s hs)
  | enter queue group _ a _ ha => exact .enter queue group h a h' ha
  | advance ticket r _ a _ hr ha => exact .advance ticket r h a h' hr ha
  | cancel ticket r _ hr => exact .cancel ticket r h hr
  | drop key _ hfree => exact .drop key h hfree
  | clear _ hfree => exact .clear h hfree

theorem Moves.mono {R Q : Site → Site → Prop} (hRQ : ∀ s t, R s t → Q s t) {h h' : Host}
    (hm : Moves R h h') : Moves Q h h' := by
  induction hm with
  | refl => exact .refl
  | tail _ hlast ih => exact ih.tail (hlast.mono hRQ)

theorem Moves.site {R : Site → Site → Prop} (htraffic : ∀ s t, s.Traffic t → R s t)
    (hrefl : ∀ s, R s s) (htrans : ∀ s t u, R s t → R t u → R s u) {h h' : Host} (hm : Moves R h h') :
    R h.site h'.site := by
  induction hm with
  | refl => exact hrefl _
  | tail _ hlast ih =>
      apply htrans _ _ _ ih
      cases hlast with
      | task _ _ hs => exact hs
      | enter _ _ _ _ _ ha => exact htraffic _ _ ha.traffic
      | advance _ _ _ _ _ _ ha => exact htraffic _ _ ha.traffic
      | cancel | drop | clear => exact hrefl _

theorem Moves.traffic {h h' : Host} (hm : Moves Site.Traffic h h') : h.site.Traffic h'.site :=
  hm.site (fun _ _ ht => ht) .refl fun _ _ _ => .trans

theorem locked_run {α : Type} (action : HostM α) (h : Host) : locked action h =
    match h.service.lock.owner with
    | some _ => (.pending, h)
    | none => (.ready (action h).1, (action h).2) := by
  unfold locked
  rw [bind_apply, get_apply]
  cases h.service.lock.owner <;> rfl

theorem sessionCount_host (h : Host) : (sessionCount h).2 = h := by
  unfold sessionCount
  rw [locked_run]
  cases h.service.lock.owner <;> rfl

inductive Closes (queue group : String) (h : Host) : Poll (Except ServiceError Bool) → Host → Prop
  | busy (howner : h.service.lock.owner ≠ none) : Closes queue group h .pending h
  | absent (hfree : h.service.lock.owner = none)
      (hn : h.service.sessions.get? (sessionKey queue group) = none) :
      Closes queue group h (.ready (.ok false)) h
  | failed (n e s) (hfree : h.service.lock.owner = none)
      (hn : h.service.sessions.get? (sessionKey queue group) = some n)
      (hclose : closeNow n h.site = (.error e, s)) :
      Closes queue group h (.ready (.error (.collaborator "CloseSession" queue (some group) e)))
        ⟨s, { h.service with sessions := h.service.sessions.erase (sessionKey queue group) }⟩
  | closed (n s t) (hfree : h.service.lock.owner = none)
      (hn : h.service.sessions.get? (sessionKey queue group) = some n)
      (hclose : closeNow n h.site = (.ok (), s)) (ht : s.Glance t) :
      Closes queue group h (.ready (.ok true))
        ⟨t, { h.service with sessions := h.service.sessions.erase (sessionKey queue group) }⟩

theorem closeSession_closes (queue group : String) (h : Host) :
    Closes queue group h (closeSession queue group h).1 (closeSession queue group h).2 := by
  unfold closeSession
  rw [locked_run]
  cases howner : h.service.lock.owner with
  | some ticket => exact .busy (by simp [howner])
  | none =>
      rw [bind_apply, get_apply]
      dsimp only
      cases hn : h.service.sessions.get? (sessionKey queue group) with
      | none => exact .absent howner hn
      | some n =>
          dsimp only
          rw [bind_apply, modifyService_apply, bind_apply, onSite_apply]
          dsimp only
          rcases hclose : closeNow n h.site with ⟨e | ⟨⟩, s⟩
          · exact .failed n e s howner hn hclose
          · exact .closed n s _ howner hn hclose (.note s (by decide) _ _)

inductive ShutsDown (h : Host) : Poll Unit → Host → Prop
  | busy (howner : h.service.lock.owner ≠ none) : ShutsDown h .pending h
  | done (answers s t) (hfree : h.service.lock.owner = none)
      (hclose : closeEach h.service.sessions.entries h.site = (answers, s)) (ht : s.Glance t) :
      ShutsDown h (.ready ()) ⟨t, { h.service with sessions := ∅ }⟩

theorem shutdown_shutsDown (h : Host) : ShutsDown h (shutdown h).1 (shutdown h).2 := by
  unfold shutdown
  rw [locked_run]
  cases howner : h.service.lock.owner with
  | some ticket => exact .busy (by simp [howner])
  | none =>
      rw [bind_apply, get_apply]
      dsimp only
      rw [bind_apply, modifyService_apply, bind_apply, onSite_apply, bind_apply]
      dsimp only
      rcases hclose : closeEach h.service.sessions.entries h.site with ⟨answers, s⟩
      have ht := Site.countClosed_glance answers s
      dsimp only
      split
      · exact .done answers s _ howner hclose
          ((ht.trans (.note _ (by decide) _ _)).trans (.note _ (by decide) _ _))
      · exact .done answers s _ howner hclose (ht.trans (.note _ (by decide) _ _))

theorem closeSession_moves (queue group : String) (h : Host) :
    Moves Site.Traffic h (closeSession queue group h).2 := by
  have hc := closeSession_closes queue group h
  generalize closeSession queue group h = out at hc ⊢
  rcases out with ⟨answer, h'⟩
  have hn (n : Nat) := Site.closeNow_traffic n h.site
  cases hc with
  | busy | absent => exact .refl
  | failed n e s hfree _ hclose =>
      refine .tail (.single (.task h s ?_)) (.drop (sessionKey queue group) ⟨s, h.service⟩ hfree)
      simpa [hclose] using hn n
  | closed n s t hfree _ hclose ht =>
      refine .tail (.single (.task h t ?_)) (.drop (sessionKey queue group) ⟨t, h.service⟩ hfree)
      exact .trans (by simpa [hclose] using hn n) ht.toTraffic

theorem shutdown_moves (h : Host) : Moves Site.Traffic h (shutdown h).2 := by
  have hd := shutdown_shutsDown h
  generalize shutdown h = out at hd ⊢
  rcases out with ⟨answer, h'⟩
  cases hd with
  | busy => exact .refl
  | done answers s t hfree hclose ht =>
      refine .tail (.single (.task h t ?_)) (.clear ⟨t, h.service⟩ hfree)
      have hs := Site.closeEach_traffic h.service.sessions.entries h.site
      exact .trans (by simpa [hclose] using hs) ht.toTraffic

theorem cancel_cases (ticket : Nat) (h : Host) :
    (h.service.receives.get? ticket = none ∧ cancel ticket h = (false, h)) ∨
    ∃ r, h.service.receives.get? ticket = some r ∧ cancel ticket h = (true, ⟨h.site, { h.service with
      receives := h.service.receives.erase ticket, lock := h.service.lock.leave ticket }⟩) := by
  unfold cancel
  rw [bind_apply, get_apply]
  dsimp only
  cases hr : h.service.receives.get? ticket with
  | none => exact .inl ⟨rfl, by rw [if_neg (by simp [Table.contains, hr])]; rfl⟩
  | some r => exact .inr ⟨r, rfl, by rw [if_pos (by simp [Table.contains, hr])]; rfl⟩

theorem cancel_site (ticket : Nat) (h : Host) : (cancel ticket h).2.site = h.site := by
  obtain ⟨-, hrun⟩ | ⟨r, -, hrun⟩ := cancel_cases ticket h <;> rw [hrun]

theorem cancel_sessions (ticket : Nat) (h : Host) :
    (cancel ticket h).2.service.sessions = h.service.sessions := by
  obtain ⟨-, hrun⟩ | ⟨r, -, hrun⟩ := cancel_cases ticket h <;> rw [hrun]

theorem cancel_settings (ticket : Nat) (h : Host) :
    (cancel ticket h).2.service.settings = h.service.settings := by
  obtain ⟨-, hrun⟩ | ⟨r, -, hrun⟩ := cancel_cases ticket h <;> rw [hrun]

theorem cancel_moves (ticket : Nat) (h : Host) : Moves Site.Traffic h (cancel ticket h).2 := by
  obtain ⟨-, hrun⟩ | ⟨r, hr, hrun⟩ := cancel_cases ticket h
  · rw [hrun]
  · rw [hrun]
    exact .single (.cancel ticket r h hr)

theorem poll_none {ticket : Nat} {h : Host} (hr : h.service.receives.get? ticket = none) :
    poll ticket h = (none, h) := by
  unfold poll
  rw [bind_apply, get_apply, hr]
  rfl

theorem poll_some {ticket : Nat} {r : Receive} {h : Host}
    (hr : h.service.receives.get? ticket = some r) :
    poll ticket h = (some (advance ticket r h).1, (advance ticket r h).2) := by
  unfold poll
  rw [bind_apply, get_apply, hr]
  rfl

theorem poll_moves (ticket : Nat) (h : Host) : Moves Site.Traffic h (poll ticket h).2 := by
  cases hr : h.service.receives.get? ticket with
  | none =>
      rw [poll_none hr]
  | some r =>
      rw [poll_some hr]
      exact .single (.advance ticket r h _ _ hr (advance_advances ticket r h))

theorem start_run (queue group : String) (h : Host) : start queue group h =
    match enter queue group h with
    | ((ticket, .error e), h') => ((ticket, .ready (.error e)), h')
    | ((ticket, .ok r), h') => ((ticket, (advance ticket r h').1), (advance ticket r h').2) := by
  unfold start
  rw [bind_apply]
  rcases enter queue group h with ⟨⟨ticket, e | r⟩, h'⟩ <;> rfl

theorem Enters.outstanding {queue group : String} {h h' : Host} {ticket : Nat} {r : Receive}
    (he : Enters queue group h (ticket, .ok r) h') : h'.service.receives.get? ticket = some r := by
  cases he
  exact Table.get?_insert_self _ _ _

theorem Enters.atLock {queue group : String} {h h' : Host} {ticket : Nat} {r : Receive}
    (he : Enters queue group h (ticket, .ok r) h') (n w : Nat) : r.stage ≠ .waiting n w := by
  cases he
  simp

theorem Enters.sessions {queue group : String} {h h' : Host} {a : Nat × Except ServiceError Receive}
    (he : Enters queue group h a h') : h'.service.sessions = h.service.sessions := by
  cases he <;> rfl

theorem Enters.glance {queue group : String} {h h' : Host} {a : Nat × Except ServiceError Receive}
    (he : Enters queue group h a h') : h.site.Glance h'.site := by
  cases he with
  | refused _ _ hs => exact hs
  | entered _ _ _ hs => exact hs

theorem start_cases (queue group : String) (h : Host) :
    (∃ e h', Enters queue group h (h.service.nextTicket, .error e) h' ∧
      start queue group h = ((h.service.nextTicket, .ready (.error e)), h')) ∨
    ∃ h₁, Enters queue group h (h.service.nextTicket, .ok ⟨queue, group, .inLine⟩) h₁ ∧
      start queue group h =
        ((h.service.nextTicket, (advance h.service.nextTicket ⟨queue, group, .inLine⟩ h₁).1),
          (advance h.service.nextTicket ⟨queue, group, .inLine⟩ h₁).2) := by
  have he := enter_enters queue group h
  rw [start_run]
  generalize enter queue group h = out at he ⊢
  rcases out with ⟨a, h'⟩
  cases he with
  | refused e s hs => exact .inl ⟨e, _, .refused e s hs, rfl⟩
  | entered s hqueue hgroup hs => exact .inr ⟨_, .entered s hqueue hgroup hs, rfl⟩

theorem start_moves (queue group : String) (h : Host) :
    Moves Site.Traffic h (start queue group h).2 := by
  obtain ⟨e, h', he, hrun⟩ | ⟨h₁, he, hrun⟩ := start_cases queue group h
  · rw [hrun]
    exact .single (.enter queue group h _ h' he)
  · rw [hrun]
    exact .tail (.single (.enter queue group h _ h₁ he))
      (.advance _ _ h₁ _ _ he.outstanding (advance_advances _ _ h₁))

theorem receive_run (queue group : String) (h : Host) : receive queue group h =
    match start queue group h with
    | ((ticket, .pending), h') => (.pending, (cancel ticket h').2)
    | ((_, .ready answer), h') => (.ready answer, h') := by
  unfold receive
  rw [bind_apply]
  generalize start queue group h = out
  rcases out with ⟨⟨ticket, _ | answer⟩, h'⟩ <;> rfl

theorem Enters.ticket_eq {queue group : String} {a : Nat × Except ServiceError Receive}
    (he : Enters queue group h a h') : a.1 = h.service.nextTicket := by
  cases he <;> rfl

theorem start_ticket (queue group : String) (h : Host) :
    (start queue group h).1.1 = h.service.nextTicket := by
  obtain ⟨e, h', -, hrun⟩ | ⟨h₁, -, hrun⟩ := start_cases queue group h <;> rw [hrun]

theorem receive_host (queue group : String) (h : Host) :
    (receive queue group h).2 = (start queue group h).2 ∨
      (receive queue group h).2 = (cancel h.service.nextTicket (start queue group h).2).2 := by
  have hticket := start_ticket queue group h
  rw [receive_run]
  rcases hrun : start queue group h with ⟨⟨ticket, _ | answer⟩, h'⟩
  · rw [hrun] at hticket
    exact .inr (by rw [← hticket])
  · exact .inl rfl

theorem receive_answer (queue group : String) (h : Host) :
    (receive queue group h).1 = (start queue group h).1.2 := by
  rw [receive_run]
  rcases start queue group h with ⟨⟨ticket, _ | answer⟩, h'⟩ <;> rfl

theorem receive_site (queue group : String) (h : Host) :
    (receive queue group h).2.site = (start queue group h).2.site := by
  obtain hrun | hrun := receive_host queue group h
  · rw [hrun]
  · rw [hrun, cancel_site]

theorem receive_sessions (queue group : String) (h : Host) :
    (receive queue group h).2.service.sessions = (start queue group h).2.service.sessions := by
  obtain hrun | hrun := receive_host queue group h
  · rw [hrun]
  · rw [hrun, cancel_sessions]

theorem receive_moves (queue group : String) (h : Host) :
    Moves Site.Traffic h (receive queue group h).2 := by
  have hstart := start_moves queue group h
  obtain hrun | hrun := receive_host queue group h
  · rw [hrun]
    exact hstart
  · rw [hrun]
    exact hstart.trans (cancel_moves _ _)

theorem registers_extends {task : Task (Except CollaboratorError Unit)}
    {change : Registry → Except CollaboratorError Registry} (h : Lifecycle.Registers task change)
    (s : Site) : s.Extends (task s).2 := by
  have ht := h s
  rcases hr : task s with ⟨e | ⟨⟩, t⟩
  · rw [hr] at ht
    exact ht.2.sessions
  · rw [hr] at ht
    obtain ⟨r, -, ht⟩ := ht
    exact .trans (.of_eq rfl) ht.sessions

theorem changeMetadata_extends (change : Backend → Except CollaboratorError Metadata) (s : Site) :
    s.Extends (Site.changeMetadata change s).2 := by
  rw [Site.changeMetadata_run]
  cases change s.backend <;> exact .refl _

theorem direct_extends (d : Direct) (s : Site) : s.Extends (Site.perform d s).2 := by
  cases d with
  | existTopic name force => exact (Site.existTopic_glance name force s).sessions
  | listTopics force => exact (Site.listTopics_glance force s).sessions
  | createTopic name layout =>
      exact registers_extends (Lifecycle.createTopic_registers name layout Site.directAddress) s
  | deleteTopic name =>
      exact registers_extends (Lifecycle.deleteTopic_registers name Site.directAddress) s
  | addQueue queue => exact changeMetadata_extends (fun b => b.metadata.addQueue queue b.clock) s
  | deleteQueue queue => exact changeMetadata_extends (fun b => b.metadata.deleteQueue queue) s
  | addGroup record => exact changeMetadata_extends (fun b => b.metadata.addGroup record) s
  | updateGroup record => exact changeMetadata_extends (fun b => b.metadata.updateGroup record) s
  | deleteGroup group queue =>
      exact changeMetadata_extends (fun b => b.metadata.deleteGroup group queue) s
  | produce queue payload => exact (Site.produce_traffic queue payload s).sessions
  | pending queue group => exact (Site.pending_traffic queue group s).sessions
  | openSession addresses queue group =>
      exact (Site.openSession_opens addresses queue group s).traffic.sessions
  | receive session => exact (Site.look_looks session s).traffic.sessions
  | close session => exact .closeSession _ _
  | query direction queue group window =>
      exact (Volume.siteQuery_glances direction queue group window s).sessions
  | topicInfo | existQueue | queueCreateTime | queueMap | groupMap | groupConfig | groupCount
  | sessionsOpened | record | total | snapshot => exact .refl _

theorem apply_extends (c : Condition) (s : Site) : s.Extends (Site.apply c s).2 := by
  cases c <;> exact .refl _

end Host

theorem Lifecycle.create_transport (settings : Settings) (queue : String) (s : Site) :
    (create settings queue s).2.backend.transport = s.backend.transport := by
  have hc := create_creates settings queue s
  generalize create settings queue s = out at hc ⊢
  rcases out with ⟨answer, t⟩
  cases hc with
  | refused e _ hfirst => exact hfirst.glance.transport
  | stranded m e t text _ _ _ ht => exact ht.transport
  | created m r _ _ _ _ _ ht => exact ht.transport

theorem Lifecycle.delete_transport (settings : Settings) (queue : String) (s : Site) :
    (delete settings queue s).2.backend.transport = s.backend.transport := by
  have hd := delete_deletes settings queue s
  generalize delete settings queue s = out at hd ⊢
  rcases out with ⟨answer, t⟩
  cases hd with
  | refused e _ hfirst => exact hfirst.glance.transport
  | stranded m e t text _ _ _ ht => exact ht.transport
  | deleted m r _ _ _ _ _ ht => exact ht.transport

theorem Operation.Records.transport {x : Operation Unit} {change : Backend → Except CollaboratorError Metadata}
    (hx : Records x change) (s : Site) : (x s).2.backend.transport = s.backend.transport := by
  have hs := hx s
  rcases hr : x s with ⟨e | ⟨⟩, t⟩
  · rw [hr] at hs
    exact hs.transport
  · rw [hr] at hs
    obtain ⟨m, -, ht⟩ := hs
    exact ht.transport

/-- The requests that change topics or records. -/
def Request.writes : Request → Bool
  | .createQueue _ | .deleteQueue _ | .addGroup .. | .updateGroup .. | .deleteGroup .. => true
  | _ => false

namespace Host

theorem perform_moves {r : Request} (hr : r.writes = false) (h : Host) :
    Moves Site.Traffic h (perform r h).2 := by
  have hglance {α : Type} (x : Operation α) (hx : Operation.Glances x) :
      Moves Site.Traffic h ⟨(x h.site).2, h.service⟩ := .single (.task h _ (hx h.site).toTraffic)
  cases r with
  | createQueue | deleteQueue | addGroup | updateGroup | deleteGroup => cases hr
  | updateQueue queue => exact hglance _ (Lifecycle.update_glances queue)
  | lookupQueue queue group => exact hglance _ (Lifecycle.lookup_glances queue group)
  | lookupGroup group => exact hglance _ (Groups.lookup_glances group)
  | getGroup group queue => exact hglance _ (Groups.single_glances group queue)
  | send queue group payload => exact .single (.task h _ (send_sends queue group payload h.site).traffic)
  | receive queue group => exact receive_moves queue group h
  | acknowledge => exact .refl
  | volume direction queue group window =>
      exact hglance _ (Volume.query_glances direction queue group window)
  | audit => exact hglance _ Lifecycle.audit_glances
  | sessionCount =>
      change Moves Site.Traffic h (sessionCount h).2
      rw [sessionCount_host]
  | closeSession queue group => exact closeSession_moves queue group h
  | shutdown => exact shutdown_moves h

theorem perform_transport {r : Request} (hr : r.writes = true) (h : Host) :
    (perform r h).2.site.backend.transport = h.site.backend.transport := by
  cases r with
  | createQueue queue => exact Lifecycle.create_transport h.service.settings queue h.site
  | deleteQueue queue => exact Lifecycle.delete_transport h.service.settings queue h.site
  | addGroup group queue access => exact (Groups.add_records group queue access).transport h.site
  | updateGroup group queue access => exact (Groups.update_records group queue access).transport h.site
  | deleteGroup group queue => exact (Groups.delete_records group queue).transport h.site
  | updateQueue | lookupQueue | lookupGroup | getGroup | send | receive | acknowledge | volume | audit
  | sessionCount | closeSession | shutdown => cases hr

theorem perform_extends {r : Request} (hr : r.writes = true) (h : Host) :
    Moves Site.Extends h (perform r h).2 := by
  have hextends : h.site.Extends (perform r h).2.site :=
    .of_eq (congrArg Transport.sessions (perform_transport hr h))
  have hservice : (perform r h).2.service = h.service := by
    cases r with
    | createQueue | deleteQueue | addGroup | updateGroup | deleteGroup => rfl
    | updateQueue | lookupQueue | lookupGroup | getGroup | send | receive | acknowledge | volume | audit
    | sessionCount | closeSession | shutdown => cases hr
  have hmove : Move Site.Extends h ⟨(perform r h).2.site, h.service⟩ := .task h _ hextends
  rw [← hservice] at hmove
  exact .single hmove

theorem step_create (queue : String) (h : Host) : step (.request (.createQueue queue)) h =
    (.outcome (.ready ((Lifecycle.create h.service.settings queue h.site).1.map fun _ => .done)),
      ⟨(Lifecycle.create h.service.settings queue h.site).2, h.service⟩) := rfl

theorem step_delete (queue : String) (h : Host) : step (.request (.deleteQueue queue)) h =
    (.outcome (.ready ((Lifecycle.delete h.service.settings queue h.site).1.map fun _ => .done)),
      ⟨(Lifecycle.delete h.service.settings queue h.site).2, h.service⟩) := rfl

theorem step_start (queue group : String) (h : Host) : step (.start queue group) h =
    (.started (start queue group h).1.1 (received (start queue group h).1.2),
      (start queue group h).2) := rfl

theorem step_receive (queue group : String) (h : Host) : step (.request (.receive queue group)) h =
    (.outcome (received (receive queue group h).1), (receive queue group h).2) := rfl

theorem step_close (queue group : String) (h : Host) : step (.request (.closeSession queue group)) h =
    (.outcome ((closeSession queue group h).1.map (·.map .closed)), (closeSession queue group h).2) := rfl

theorem step_shutdown (h : Host) : step (.request .shutdown) h =
    (.outcome ((shutdown h).1.map fun _ => .ok .done), (shutdown h).2) := rfl

theorem step_poll (ticket : Nat) (h : Host) : step (.poll ticket) h =
    (match (poll ticket h).1 with
      | none => .noTicket
      | some answer => .outcome (received answer), (poll ticket h).2) := by
  rcases hr : poll ticket h with ⟨_ | answer, h'⟩ <;> simp [step, bind_apply, pure_apply, hr]

end Host

/-- In these steps a receive comes, goes on or is given up. -/
def Event.attends : Event → Bool
  | .start _ _ | .poll _ | .cancel _ | .request (.receive _ _) => true
  | _ => false

namespace Host

theorem step_service {e : Event} (he : e.attends = false) (h : Host) :
    ∃ sessions, (step e h).2.service = { h.service with sessions } := by
  cases e with
  | start | poll | cancel => cases he
  | direct | condition => exact ⟨_, rfl⟩
  | request r =>
      cases r with
      | receive => cases he
      | sessionCount => exact ⟨h.service.sessions, congrArg Host.service (sessionCount_host h)⟩
      | closeSession queue group =>
          have hc := closeSession_closes queue group h
          change ∃ sessions, (closeSession queue group h).2.service = _
          generalize closeSession queue group h = out at hc ⊢
          rcases out with ⟨answer, h'⟩
          cases hc <;> exact ⟨_, rfl⟩
      | shutdown =>
          have hd := shutdown_shutsDown h
          change ∃ sessions, (shutdown h).2.service = _
          generalize shutdown h = out at hd ⊢
          rcases out with ⟨answer, h'⟩
          cases hd <;> exact ⟨_, rfl⟩
      | createQueue | updateQueue | deleteQueue | lookupQueue | addGroup | updateGroup | deleteGroup
      | lookupGroup | getGroup | send | acknowledge | volume | audit => exact ⟨_, rfl⟩

theorem step_moves (e : Event) (h : Host) : Moves Site.Extends h (step e h).2 := by
  have htraffic {h' : Host} (hm : Moves Site.Traffic h h') : Moves Site.Extends h h' :=
    hm.mono fun _ _ ht => ht.sessions
  cases e with
  | request r =>
      cases hr : r.writes with
      | true => exact perform_extends hr h
      | false => exact htraffic (perform_moves hr h)
  | start queue group => exact htraffic (start_moves queue group h)
  | poll ticket =>
      rw [step_poll]
      exact htraffic (poll_moves ticket h)
  | cancel ticket => exact htraffic (cancel_moves ticket h)
  | direct d => exact .single (.task h _ (direct_extends d h.site))
  | condition c => exact .single (.task h _ (apply_extends c h.site))

theorem step_extends (e : Event) (h : Host) : h.site.Extends (step e h).2.site :=
  (step_moves e h).site (fun _ _ ht => ht.sessions) (fun _ => .refl _) fun _ _ _ => .trans

/-- A property that each move keeps holds after every step. -/
theorem step_keep {P : Host → Prop} (hmove : ∀ h h', Move Site.Extends h h' → P h → P h') (e : Event)
    {h : Host} (hP : P h) : P (step e h).2 := by
  have hmoves := step_moves e h
  generalize (step e h).2 = h' at hmoves
  induction hmoves with
  | refl => exact hP
  | tail _ hlast ih => exact hmove _ _ hlast ih

theorem steps_keep {P : Host → Prop} (hstep : ∀ e h, P h → P (step e h).2) (es : List Event)
    {h : Host} (hP : P h) : P (steps es h).2 := by
  induction es generalizing h with
  | nil => exact hP
  | cons e es ih => exact ih (hstep e h hP)

/-- What the steps of a run leave behind, each by itself, in their order. -/
def chronicle {α : Type} (f : Event → Host → List α) : List Event → Host → List α
  | [], _ => []
  | e :: es, h => f e h ++ chronicle f es (step e h).2

theorem chronicle_keep {α : Type} {f : Event → Host → List α} {P : List α → Host → Prop}
    (hstep : ∀ H h e, P H h → P (H ++ f e h) (step e h).2) (es : List Event) {H : List α} {h : Host}
    (hP : P H h) : P (H ++ chronicle f es h) (steps es h).2 := by
  induction es generalizing H h with
  | nil => simpa [chronicle, steps] using hP
  | cons e es ih =>
      have hnext := ih (hstep H h e hP)
      rw [List.append_assoc] at hnext
      exact hnext

end Host

end ManagedQueue
