import ManagedQueue.Proofs.SessionTable

namespace ManagedQueue

namespace Host

variable {h h' : Host} {ticket j : Nat} {r : Receive} {answer : Poll Received}

theorem Acquires.others {a : Acquisition} (ha : Acquires ticket r h a h') (hj : j ≠ ticket) :
    h'.service.receives.get? j = h.service.receives.get? j := by
  cases ha with
  | inLine | found | refused | opened => rfl
  | shut => simp [Table.get?_insert, hj]

theorem Advances.others (ha : Advances ticket r h answer h') (hj : j ≠ ticket) :
    h'.service.receives.get? j = h.service.receives.get? j := by
  cases ha with
  | idle => rfl
  | woken _ _ _ _ _ _ hl =>
      obtain ⟨receives, hservice, hsettles⟩ := hl.settles
      rw [hservice]
      exact hsettles.departs.others hj
  | waits _ _ ha => exact ha.others hj
  | served _ _ _ _ _ _ ha _ hl =>
      obtain ⟨receives, hservice, hsettles⟩ := hl.settles
      rw [hservice]
      exact (hsettles.departs.others hj).trans (ha.others hj)
  | refused _ _ _ ha =>
      change (Table.erase _ ticket).get? j = _
      rw [Table.get?_erase, if_neg hj]
      exact ha.others hj

theorem Enters.others {queue group : String} {a : Nat × Except ServiceError Receive}
    (he : Enters queue group h a h') (hj : j ≠ h.service.nextTicket) :
    h'.service.receives.get? j = h.service.receives.get? j := by
  cases he with
  | refused => rfl
  | entered => simp [Table.get?_insert, hj]

theorem start_others (queue group : String) (hj : j ≠ h.service.nextTicket) :
    (start queue group h).2.service.receives.get? j = h.service.receives.get? j := by
  obtain ⟨e, h', he, hrun⟩ | ⟨h₁, he, hrun⟩ := start_cases queue group h
  · rw [hrun]
    exact he.others hj
  · rw [hrun]
    exact ((advance_advances _ _ h₁).others hj).trans (he.others hj)

theorem cancel_outstanding (ticket j : Nat) (h : Host) :
    (cancel ticket h).2.service.receives.get? j =
      if j = ticket then none else h.service.receives.get? j := by
  obtain ⟨hnone, hrun⟩ | ⟨r, -, hrun⟩ := cancel_cases ticket h
  · rw [hrun]
    by_cases hj : j = ticket
    · rw [if_pos hj, hj, hnone]
    · rw [if_neg hj]
  · rw [hrun, Table.get?_erase]

theorem step_outstanding (hs : h.Sound) (hr : h.service.receives.get? ticket = some r) {e : Event}
    (hpoll : e ≠ .poll ticket) (hcancel : e ≠ .cancel ticket) :
    (step e h).2.service.receives.get? ticket = some r := by
  -- A receive that starts takes the next ticket, so it is not this one.
  have hnext : ticket ≠ h.service.nextTicket := Nat.ne_of_lt (hs.service.issued hr)
  rw [← hr]
  cases he : e.attends with
  | false =>
      obtain ⟨sessions, hservice⟩ := step_service he h
      rw [hservice]
  | true =>
      cases e with
      | start queue group => exact start_others queue group hnext
      | poll i =>
          have hi : ticket ≠ i := fun hi => hpoll (hi ▸ rfl)
          rw [step_poll]
          cases hq : h.service.receives.get? i with
          | none => rw [poll_none hq]
          | some q =>
              rw [poll_some hq]
              exact (advance_advances i q h).others hi
      | cancel i =>
          have hi : ticket ≠ i := fun hi => hcancel (hi ▸ rfl)
          exact (cancel_outstanding i ticket h).trans (if_neg hi)
      | direct | condition => cases he
      | request q =>
          cases q with
          | receive queue group =>
              have hstart := start_others queue group hnext
              change (receive queue group h).2.service.receives.get? ticket = _
              obtain hrun | hrun := receive_host queue group h
              · rw [hrun, hstart]
              · rw [hrun, cancel_outstanding, if_neg hnext, hstart]
          | _ => cases he

theorem steps_outstanding (hs : h.Sound) (hr : h.service.receives.get? ticket = some r)
    {later : List Event} (hpoll : .poll ticket ∉ later) (hcancel : .cancel ticket ∉ later) :
    (steps later h).2.service.receives.get? ticket = some r := by
  induction later generalizing h with
  | nil => exact hr
  | cons e later ih =>
      have hfirst := step_outstanding hs hr (fun he => hpoll (he ▸ .head _)) fun he => hcancel (he ▸ .head _)
      exact ih (hs.step e) hfirst (fun hmem => hpoll (.tail _ hmem)) fun hmem => hcancel (.tail _ hmem)

/-- The host as it would be without the receive. -/
def without (h : Host) (ticket : Nat) : Host :=
  ⟨h.site, { h.service with receives := h.service.receives.erase ticket }⟩

/-- The action does at this host what it would do without the receive. -/
def Ignores {α : Type} (ticket : Nat) (action : HostM α) (h : Host) : Prop :=
  action (h.without ticket) = ((action h).1, (action h).2.without ticket)

namespace Ignores

variable {α β : Type}

theorem pure (a : α) : Ignores ticket (Pure.pure a) h := rfl

theorem bind {x : HostM α} {f : α → HostM β} (hx : Ignores ticket x h)
    (hf : Ignores ticket (f (x h).1) (x h).2) : Ignores ticket (x >>= f) h := by
  unfold Ignores at hx hf ⊢
  rw [bind_apply, hx, hf]
  rfl

theorem get {f : Host → HostM β} (hread : f (h.without ticket) = f h) (hf : Ignores ticket (f h) h) :
    Ignores ticket (MonadState.get >>= f) h := by
  unfold Ignores at hf ⊢
  rw [bind_apply, get_apply, hread, hf]
  rfl

theorem map {x : HostM α} (f : α → β) (hx : Ignores ticket x h) : Ignores ticket (f <$> x) h :=
  hx.bind (f := fun a => Pure.pure (f a)) (.pure _)

theorem modifyService {f : Service → Service} (hf : ∀ s : Service,
    f { s with receives := s.receives.erase ticket } =
      { f s with receives := (f s).receives.erase ticket }) : Ignores ticket (modifyService f) h :=
  congrArg (fun service => ((), Host.mk h.site service)) (hf h.service)

theorem onSite (task : Task α) : Ignores ticket (onSite task) h := rfl

theorem setReceive (hj : j ≠ ticket) (r : Receive) : Ignores ticket (setReceive j r) h :=
  modifyService fun s => by rw [Table.insert_erase_comm s.receives hj]

theorem dropReceive (j : Nat) : Ignores ticket (dropReceive j) h :=
  modifyService fun s => by rw [Table.erase_comm]

theorem leaveLock (j : Nat) : Ignores ticket (leaveLock j) h := rfl

theorem finish {answer : α} : Ignores ticket (finish j answer) h :=
  .bind (.dropReceive j) (.pure _)

theorem suspend (hj : j ≠ ticket) (r : Receive) (stage : Stage) :
    Ignores ticket (suspend j r stage : HostM (Poll α)) h :=
  .bind (.setReceive hj _) (.pure _)

theorem lookNow (hj : j ≠ ticket) (r : Receive) (session : Nat) :
    Ignores ticket (lookNow j r session) h := by
  apply bind (onSite _)
  rcases (Host.onSite (Site.look session) h).1 with e | _ | payload
  · exact finish
  · exact .get rfl (.suspend hj r _)
  · exact .bind (.onSite _) (.bind (.onSite _) .finish)

theorem listen (hj : j ≠ ticket) (r : Receive) (session : Nat) :
    Ignores ticket (listen j r session) h := by
  apply bind (onSite _)
  rcases (Host.onSite (Operation.planned .receive) h).1 with _ | e
  · exact .lookNow hj r session
  · exact .finish

theorem openNow (j : Nat) (r : Receive) : Ignores ticket (openNow j r) h := by
  apply get rfl
  apply bind (onSite _)
  rcases (Host.onSite (Operation.attempt .openSession
    (Site.openSession h.service.settings.brokers r.queue r.group)) h).1 with e | session
  · exact .bind (.leaveLock j) (.pure _)
  · exact .bind (.modifyService fun _ => rfl) (.get rfl (.bind (.onSite _) (.bind (.leaveLock j) (.pure _))))

theorem tryOpen (hj : j ≠ ticket) (r : Receive) : Ignores ticket (tryOpen j r) h := by
  apply get rfl
  split
  · exact .bind (.setReceive hj _) (.pure _)
  · exact .openNow j r

theorem acquire (hj : j ≠ ticket) (r : Receive) : Ignores ticket (acquire j r) h := by
  unfold Host.acquire
  split
  · exact .tryOpen hj r
  · apply get rfl
    split
    · apply get rfl
      split
      · exact .bind (.leaveLock j) (.pure _)
      · exact .tryOpen hj r
    · exact .pure _

theorem advance (hj : j ≠ ticket) (r : Receive) : Ignores ticket (advance j r) h := by
  unfold Host.advance
  split
  · apply get rfl
    split
    · exact .pure _
    · exact .lookNow hj r _
  · apply bind (.acquire hj r)
    rcases (Host.acquire j r h).1 with _ | session | session | e
    · exact .pure _
    · exact .listen hj r session
    · exact .listen hj r session
    · exact .finish

theorem poll (hj : j ≠ ticket) : Ignores ticket (poll j) h := by
  have hr : (h.without ticket).service.receives.get? j = h.service.receives.get? j := by
    simp [without, Table.get?_erase, hj]
  apply get
  · rw [hr]
  · split
    · exact .pure _
    · exact .map some (.advance hj _)

theorem cancel (hj : j ≠ ticket) : Ignores ticket (cancel j) h := by
  have hr : (h.without ticket).service.receives.contains j = h.service.receives.contains j := by
    simp [without, Table.contains, Table.get?_erase, hj]
  apply get
  · rw [hr]
  · split
    · exact .bind (.dropReceive j) (.bind (.leaveLock j) (.pure _))
    · exact .pure _

theorem enter (queue group : String) (hnext : h.service.nextTicket ≠ ticket) :
    Ignores ticket (enter queue group) h := by
  apply get rfl
  apply bind (modifyService fun _ => rfl)
  apply bind (onSite _)
  split
  · exact .pure _
  · exact .bind (.setReceive hnext _) (.bind (.modifyService fun _ => rfl) (.pure _))

theorem start (queue group : String) (hnext : h.service.nextTicket ≠ ticket) :
    Ignores ticket (start queue group) h := by
  have he := enter_enters queue group h
  apply bind (.enter queue group hnext)
  rcases hrun : Host.enter queue group h with ⟨⟨i, e | r⟩, h₁⟩
  · exact .pure _
  · rw [hrun] at he
    have hi : i ≠ ticket := fun hi => hnext (he.ticket_eq.symm.trans hi)
    exact .bind (.advance hi r) (.pure _)

theorem receive (queue group : String) (hnext : h.service.nextTicket ≠ ticket) :
    Ignores ticket (receive queue group) h := by
  have hticket := start_ticket queue group h
  apply bind (.start queue group hnext)
  rcases hrun : Host.start queue group h with ⟨⟨i, _ | answer⟩, h'⟩
  · rw [hrun] at hticket
    have hi : i ≠ ticket := fun hi => hnext (hticket.symm.trans hi)
    exact .bind (.map _ (.cancel hi)) (.pure _)
  · exact .pure _

theorem locked {action : HostM α} (ha : Ignores ticket action h) :
    Ignores ticket (locked action) h := by
  apply get rfl
  split
  · exact .pure _
  · exact .bind ha (.pure _)

theorem closeSession (queue group : String) : Ignores ticket (closeSession queue group) h := by
  apply locked
  apply get rfl
  split
  · exact .pure _
  · apply bind (modifyService fun _ => rfl)
    apply bind (onSite _)
    split
    · exact .pure _
    · exact .bind (.onSite _) (.pure _)

theorem shutdown : Ignores ticket shutdown h := by
  apply locked
  apply get rfl
  apply bind (modifyService fun _ => rfl)
  apply bind (onSite _)
  split
  · exact .bind (.onSite _) (.onSite _)
  · exact .onSite _

theorem perform (q : Request) (hnext : h.service.nextTicket ≠ ticket) :
    Ignores ticket (perform q) h := by
  cases q with
  | receive queue group => exact .bind (.receive queue group hnext) (.pure _)
  | sessionCount => exact .bind (.locked rfl) (.pure _)
  | closeSession queue group => exact .bind (.closeSession queue group) (.pure _)
  | shutdown => exact .bind .shutdown (.pure _)
  | createQueue | updateQueue | deleteQueue | lookupQueue | addGroup | updateGroup | deleteGroup
  | lookupGroup | getGroup | send | acknowledge | volume | audit => rfl

theorem step {e : Event} (hnext : h.service.nextTicket ≠ ticket) (hpoll : e ≠ .poll ticket)
    (hcancel : e ≠ .cancel ticket) : Ignores ticket (step e) h := by
  cases e with
  | request q => exact .bind (.perform q hnext) (.pure _)
  | start queue group => exact .bind (.start queue group hnext) (.pure _)
  | poll j =>
      have hj : j ≠ ticket := fun hj => hpoll (hj ▸ rfl)
      apply bind (.poll hj)
      split <;> exact .pure _
  | cancel j => exact .bind (.cancel fun hj => hcancel (hj ▸ rfl)) (.pure _)
  | direct | condition => rfl

end Ignores

/-- Until an outstanding receive is polled or given up, everything goes as it would without it. -/
theorem steps_without (hs : h.Sound) (hr : h.service.receives.get? ticket = some r)
    {later : List Event} (hpoll : .poll ticket ∉ later) (hcancel : .cancel ticket ∉ later) :
    steps later (h.without ticket) = ((steps later h).1, (steps later h).2.without ticket) := by
  induction later generalizing h with
  | nil => rfl
  | cons e later ih =>
      have hnext : h.service.nextTicket ≠ ticket := Nat.ne_of_gt (hs.service.issued hr)
      have hpoll' : e ≠ .poll ticket := fun he => hpoll (he ▸ .head _)
      have hcancel' : e ≠ .cancel ticket := fun he => hcancel (he ▸ .head _)
      have hfirst : step e (h.without ticket) = _ := Ignores.step hnext hpoll' hcancel'
      have hrest := ih (hs.step e) (step_outstanding hs hr hpoll' hcancel')
        (fun hmem => hpoll (.tail _ hmem)) fun hmem => hcancel (.tail _ hmem)
      change ((step e (h.without ticket)).1 :: (steps later (step e (h.without ticket)).2).1,
        (steps later (step e (h.without ticket)).2).2) = _
      rw [hfirst, hrest]
      rfl

theorem cancel_of_waiting (hs : h.Sound) (hr : h.service.receives.get? ticket = some r) {n w : Nat}
    (hstage : r.stage = .waiting n w) : (cancel ticket h).2 = h.without ticket := by
  have hnot := hs.not_atLock hr hstage
  obtain ⟨hnone, -⟩ | ⟨q, -, hrun⟩ := cancel_cases ticket h
  · rw [hr] at hnone
    cases hnone
  · rw [hrun, Lock.leave_of_not_mem hnot]
    rfl

end Host

end ManagedQueue
