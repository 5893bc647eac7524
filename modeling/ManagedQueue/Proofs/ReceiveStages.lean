import ManagedQueue.Proofs.MessageTasks

namespace ManagedQueue

theorem Operation.requireName_ok {kind value : String} {s t : Site}
    (h : requireName kind value s = (.ok (), t)) : nameFault? value = none := by
  cases hf : nameFault? value with
  | none => rfl
  | some fault =>
      rw [requireName_of_some hf] at h
      cases congrArg Prod.fst h

namespace Host

theorem onSite_apply {α : Type} (task : Task α) (h : Host) :
    onSite task h = ((task h.site).1, { h with site := (task h.site).2 }) := rfl

theorem modifyService_apply (f : Service → Service) (h : Host) :
    modifyService f h = ((), { h with service := f h.service }) := rfl

inductive LooksNow (ticket : Nat) (r : Receive) (session : Nat) (h : Host) : Poll Received → Host → Prop
  | failed (e s) (hs : Site.Looks session h.site (.error e) s) :
      LooksNow ticket r session h (.ready (.error (failed r e)))
        ⟨s, { h.service with receives := h.service.receives.erase ticket }⟩
  | quiet (s) (hs : Site.Looks session h.site (.ok none) s) :
      LooksNow ticket r session h .pending ⟨s, { h.service with
        receives := h.service.receives.insert ticket
          { r with stage := .waiting session s.backend.transport.wakeups } }⟩
  | received (payload s t) (hs : Site.Looks session h.site (.ok (some payload)) s)
      (ht : (s.withMetrics (s.backend.metrics.record .receive r.queue r.group
        ⟨s.backend.clock, 1⟩)).Glance t) :
      LooksNow ticket r session h (.ready (.ok payload))
        ⟨t, { h.service with receives := h.service.receives.erase ticket }⟩

theorem lookNow_looksNow (ticket : Nat) (r : Receive) (session : Nat) (h : Host) :
    LooksNow ticket r session h (lookNow ticket r session h).1 (lookNow ticket r session h).2 := by
  have hs := Site.look_looks session h.site
  unfold lookNow
  rw [bind_apply, onSite_apply]
  generalize Site.look session h.site = out at hs ⊢
  rcases out with ⟨e | none | payload, s⟩
  · exact .failed e s hs
  · exact .quiet s hs
  · exact .received payload s _ hs (.note _ (by decide) _ _)

inductive Listens (ticket : Nat) (r : Receive) (session : Nat) (h : Host) : Poll Received → Host → Prop
  | struck (e) (he : h.site.struck .receive = some e) :
      Listens ticket r session h (.ready (.error (failed r e))) ⟨h.site.counted .receive,
        { h.service with receives := h.service.receives.erase ticket }⟩
  | looked (answer h') (he : h.site.struck .receive = none)
      (hl : LooksNow ticket r session ⟨h.site.counted .receive, h.service⟩ answer h') :
      Listens ticket r session h answer h'

theorem listen_listens (ticket : Nat) (r : Receive) (session : Nat) (h : Host) :
    Listens ticket r session h (listen ticket r session h).1 (listen ticket r session h).2 := by
  unfold listen
  rw [bind_apply, onSite_apply, Operation.planned_run]
  dsimp only
  cases he : h.site.struck .receive with
  | some e => exact .struck e he
  | none => exact .looked _ _ he (lookNow_looksNow ticket r session _)

theorem LooksNow.traffic {ticket : Nat} {r : Receive} {session : Nat} {h h' : Host}
    {answer : Poll Received} (hl : LooksNow ticket r session h answer h') : h.site.Traffic h'.site := by
  cases hl with
  | failed e s hs => exact hs.traffic
  | quiet s hs => exact hs.traffic
  | received payload s t hs ht => exact hs.traffic.trans ht.toTraffic.of_withMetrics

theorem Listens.traffic {ticket : Nat} {r : Receive} {session : Nat} {h h' : Host}
    {answer : Poll Received} (hl : Listens ticket r session h answer h') : h.site.Traffic h'.site := by
  cases hl with
  | struck => exact (Site.Glance.counted h.site .receive).toTraffic
  | looked _ _ _ hl => exact .trans (Site.Glance.counted h.site .receive).toTraffic hl.traffic

/-- The receive owns the lock and has found no session. -/
def MayOpen (h : Host) (ticket : Nat) (r : Receive) : Prop :=
  r.stage = .opening ∨ (h.service.lock.owner = some ticket ∧
    h.service.sessions.get? (sessionKey r.queue r.group) = none)

/-- What the transport answers a receive that asks it for a session now. -/
def opening (r : Receive) (h : Host) : Except CollaboratorError Nat :=
  (Operation.attempt .openSession
    (Site.openSession h.service.settings.brokers r.queue r.group) h.site).1

inductive Acquires (ticket : Nat) (r : Receive) (h : Host) : Acquisition → Host → Prop
  | inLine (hstage : r.stage ≠ .opening) (howner : h.service.lock.owner ≠ some ticket) :
      Acquires ticket r h .waits h
  | shut (hmay : h.MayOpen ticket r) (hgate : h.site.gateShut = true) :
      Acquires ticket r h .waits ⟨h.site, { h.service with
        receives := h.service.receives.insert ticket { r with stage := .opening } }⟩
  | found (n) (hstage : r.stage ≠ .opening) (howner : h.service.lock.owner = some ticket)
      (hn : h.service.sessions.get? (sessionKey r.queue r.group) = some n) :
      Acquires ticket r h (.found n)
        ⟨h.site, { h.service with lock := h.service.lock.leave ticket }⟩
  | refused (e s) (hmay : h.MayOpen ticket r) (hgate : h.site.gateShut = false)
      (he : h.site.struck .openSession = some e ∨
        Site.Opens h.service.settings.brokers r.queue r.group h.site (.error e) h.site)
      (hs : h.site.Glance s) (hopening : opening r h = .error e) :
      Acquires ticket r h (.refused e)
        ⟨s, { h.service with lock := h.service.lock.leave ticket }⟩
  | opened (i s) (hmay : h.MayOpen ticket r) (hgate : h.site.gateShut = false)
      (hi : h.site.backend.registry.incarnation? r.queue = some i)
      (hs : (h.site.withTransport
        ((h.site.backend.transport.bind r.queue i).openSession r.queue r.group).2).Glance s)
      (hbrokers : h.service.settings.brokers ≠ [])
      (hopening : opening r h = .ok h.site.backend.transport.sessions.length) :
      Acquires ticket r h (.opened h.site.backend.transport.sessions.length) ⟨s, { h.service with
        sessions := h.service.sessions.insert (sessionKey r.queue r.group)
          h.site.backend.transport.sessions.length
        lock := h.service.lock.leave ticket }⟩

theorem opening_struck {r : Receive} {h : Host} {e : CollaboratorError}
    (he : h.site.struck .openSession = some e) : opening r h = .error e := by
  unfold opening
  rw [Operation.attempt_run, he]

theorem opening_unstruck {r : Receive} {h : Host} (he : h.site.struck .openSession = none) :
    opening r h = (Site.openSession h.service.settings.brokers r.queue r.group
      (h.site.counted .openSession)).1 := by
  unfold opening
  rw [Operation.attempt_run, he]

theorem tryOpen_acquires (ticket : Nat) (r : Receive) (h : Host) (hmay : h.MayOpen ticket r) :
    Acquires ticket r h (tryOpen ticket r h).1 (tryOpen ticket r h).2 := by
  unfold tryOpen
  rw [bind_apply, get_apply]
  dsimp only
  split
  · next hgate => exact .shut hmay hgate
  · next hgate =>
    have hgate := Bool.eq_false_iff.mpr hgate
    unfold openNow
    rw [bind_apply, get_apply, bind_apply, onSite_apply, Operation.attempt_run]
    dsimp only
    cases he : h.site.struck .openSession with
    | some e => exact .refused e _ hmay hgate (.inl he) (.counted h.site _) (opening_struck he)
    | none =>
        have hs := Site.openSession_opens h.service.settings.brokers r.queue r.group
          (h.site.counted .openSession)
        have hopening := opening_unstruck (r := r) he
        dsimp only
        generalize Site.openSession _ _ _ (h.site.counted .openSession) = out at hs hopening ⊢
        rcases out with ⟨answer, s⟩
        cases hs with
        | unavailable hb =>
            exact .refused _ _ hmay hgate (.inr (.unavailable hb)) (.counted h.site _) hopening
        | missing hi =>
            exact .refused _ _ hmay hgate (.inr (.missing hi)) (.counted h.site _) hopening
        | opened i s hi hs hbrokers =>
            have hn := ((Site.Glance.counted h.site .openSession).withTransport
              ((h.site.backend.transport.bind r.queue i).openSession r.queue r.group).2).trans hs
            exact .opened i _ hmay hgate hi (hn.trans (.note _ (by decide) _ _)) hbrokers hopening

theorem acquire_acquires (ticket : Nat) (r : Receive) (h : Host) :
    Acquires ticket r h (acquire ticket r h).1 (acquire ticket r h).2 := by
  unfold acquire
  split
  · next hstage => exact tryOpen_acquires ticket r h (.inl hstage)
  · next hstage =>
    rw [bind_apply, get_apply]
    dsimp only
    split
    · next howner =>
      rw [bind_apply, get_apply]
      dsimp only
      cases hn : h.service.sessions.get? (sessionKey r.queue r.group) with
      | some n => exact .found n hstage howner hn
      | none => exact tryOpen_acquires ticket r h (.inr ⟨howner, hn⟩)
    · next howner => exact .inLine hstage howner

theorem Acquires.traffic {ticket : Nat} {r : Receive} {h h' : Host} {a : Acquisition}
    (ha : Acquires ticket r h a h') : h.site.Traffic h'.site := by
  cases ha with
  | inLine | shut | found => exact .refl _
  | refused _ s _ _ _ ht => exact ht.toTraffic
  | opened i s _ _ _ ht =>
      have hbind : h.site.backend.transport.Extends (h.site.backend.transport.bind r.queue i) := .of_eq rfl
      exact ht.toTraffic.of_withTransport (hbind.trans (.openSession _ r.queue r.group))

inductive Advances (ticket : Nat) (r : Receive) (h : Host) : Poll Received → Host → Prop
  | idle (session wakeups) (hstage : r.stage = .waiting session wakeups)
      (hw : h.site.backend.transport.wakeups = wakeups) : Advances ticket r h .pending h
  | woken (session wakeups answer h') (hstage : r.stage = .waiting session wakeups)
      (hw : h.site.backend.transport.wakeups ≠ wakeups)
      (hl : LooksNow ticket r session h answer h') : Advances ticket r h answer h'
  | waits (h') (hstage : ∀ n w, r.stage ≠ .waiting n w) (ha : Acquires ticket r h .waits h') :
      Advances ticket r h .pending h'
  | served (a n h₁ answer h₂) (hstage : ∀ n w, r.stage ≠ .waiting n w)
      (ha : Acquires ticket r h a h₁) (hn : a = .found n ∨ a = .opened n)
      (hl : Listens ticket r n h₁ answer h₂) : Advances ticket r h answer h₂
  | refused (e h') (hstage : ∀ n w, r.stage ≠ .waiting n w)
      (ha : Acquires ticket r h (.refused e) h') :
      Advances ticket r h (.ready (.error (failed r e)))
        ⟨h'.site, { h'.service with receives := h'.service.receives.erase ticket }⟩

theorem advance_run (ticket : Nat) (r : Receive) (h : Host) (hstage : ∀ n w, r.stage ≠ .waiting n w) :
    advance ticket r h = match acquire ticket r h with
      | (.waits, h') => (.pending, h')
      | (.found n, h') | (.opened n, h') => listen ticket r n h'
      | (.refused e, h') => (.ready (.error (failed r e)),
          ⟨h'.site, { h'.service with receives := h'.service.receives.erase ticket }⟩) := by
  unfold advance
  cases hs : r.stage with
  | waiting session wakeups => exact absurd hs (hstage session wakeups)
  | inLine | opening =>
      dsimp only
      rw [bind_apply]
      rcases acquire ticket r h with ⟨_ | n | n | e, h'⟩ <;> rfl

theorem advance_waiting {r : Receive} {session wakeups : Nat} (hstage : r.stage = .waiting session wakeups)
    (ticket : Nat) (h : Host) : advance ticket r h =
      if h.site.backend.transport.wakeups = wakeups then (.pending, h) else lookNow ticket r session h := by
  unfold advance
  rw [hstage]
  dsimp only
  rw [bind_apply, get_apply]
  dsimp only
  split <;> rfl

theorem advance_advances (ticket : Nat) (r : Receive) (h : Host) :
    Advances ticket r h (advance ticket r h).1 (advance ticket r h).2 := by
  have hsettle (hstage : ∀ n w, r.stage ≠ .waiting n w) :
      Advances ticket r h (advance ticket r h).1 (advance ticket r h).2 := by
    have ha := acquire_acquires ticket r h
    rw [advance_run ticket r h hstage]
    generalize acquire ticket r h = out at ha ⊢
    rcases out with ⟨_ | n | n | e, h'⟩
    · exact .waits h' hstage ha
    · exact .served _ n h' _ _ hstage ha (.inl rfl) (listen_listens ticket r n h')
    · exact .served _ n h' _ _ hstage ha (.inr rfl) (listen_listens ticket r n h')
    · exact .refused e h' hstage ha
  cases hstage : r.stage with
  | waiting session wakeups =>
      rw [advance_waiting hstage]
      split
      · next hw => exact .idle session wakeups hstage hw
      · next hw => exact .woken session wakeups _ _ hstage hw (lookNow_looksNow ticket r session h)
  | inLine => exact hsettle fun n w => by simp [hstage]
  | opening => exact hsettle fun n w => by simp [hstage]

theorem Advances.traffic {ticket : Nat} {r : Receive} {h h' : Host} {answer : Poll Received}
    (ha : Advances ticket r h answer h') : h.site.Traffic h'.site := by
  cases ha with
  | idle => exact .refl _
  | woken _ _ _ _ _ _ hl => exact hl.traffic
  | waits _ _ ha => exact ha.traffic
  | served _ _ _ _ _ _ ha _ hl => exact ha.traffic.trans hl.traffic
  | refused _ h₁ _ ha =>
      exact ha.traffic

/-- A receive asks for the lock once its names are found valid and its queue is thought to exist. -/
inductive Enters (queue group : String) (h : Host) : Nat × Except ServiceError Receive → Host → Prop
  | refused (e s) (hs : h.site.Glance s) :
      Enters queue group h (h.service.nextTicket, .error e)
        ⟨s, { h.service with nextTicket := h.service.nextTicket + 1 }⟩
  | entered (s) (hqueue : nameFault? queue = none) (hgroup : nameFault? group = none)
      (hs : h.site.Glance s) :
      Enters queue group h (h.service.nextTicket, .ok ⟨queue, group, .inLine⟩) ⟨s, { h.service with
        nextTicket := h.service.nextTicket + 1
        receives := h.service.receives.insert h.service.nextTicket ⟨queue, group, .inLine⟩
        lock := h.service.lock.ask h.service.nextTicket }⟩

theorem Enters.traffic {queue group : String} {h h' : Host} {a : Nat × Except ServiceError Receive}
    (he : Enters queue group h a h') : h.site.Traffic h'.site := by
  cases he with
  | refused e s hs => exact hs.toTraffic
  | entered s _ _ hs => exact hs.toTraffic

theorem checkReceive_ok {queue group : String} {s t : Site}
    (h : checkReceive queue group s = (.ok (), t)) :
    nameFault? queue = none ∧ nameFault? group = none := by
  unfold checkReceive at h
  rw [Operation.bind_run] at h
  rcases hq : Operation.requireName "Queue" queue s with ⟨e | ⟨⟩, u⟩
  · rw [hq] at h
    cases h
  · rw [hq] at h
    dsimp only at h
    rw [Operation.bind_run] at h
    rcases hg : Operation.requireName "Group" group u with ⟨e | ⟨⟩, v⟩
    · rw [hg] at h
      cases h
    · exact ⟨Operation.requireName_ok hq, Operation.requireName_ok hg⟩

theorem enter_enters (queue group : String) (h : Host) :
    Enters queue group h (enter queue group h).1 (enter queue group h).2 := by
  have hs := checkReceive_glances queue group h.site
  have hok (t : Site) (hrun : checkReceive queue group h.site = (.ok (), t)) :
      nameFault? queue = none ∧ nameFault? group = none := checkReceive_ok hrun
  unfold enter run
  rw [bind_apply, get_apply, bind_apply, modifyService_apply, bind_apply, onSite_apply]
  dsimp only
  generalize checkReceive queue group h.site = out at hs hok ⊢
  rcases out with ⟨e | ⟨⟩, s⟩
  · exact .refused e s hs
  · exact .entered s (hok s rfl).1 (hok s rfl).2 hs

end Host

end ManagedQueue
