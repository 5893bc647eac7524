import ManagedQueue.Proofs.BlockedReceive
import Mathlib.Data.List.TakeWhile

namespace ManagedQueue

namespace Lock

/-- Who has the lock before the ticket does. -/
def ahead (l : Lock) (ticket : Nat) : List Nat := l.tickets.takeWhile (· ≠ ticket)

variable {l : Lock} {ticket j : Nat}

theorem mem_ahead_of_owner (ho : l.owner = some j) (hj : j ≠ ticket) : j ∈ l.ahead ticket := by
  simp [ahead, tickets, ho, hj]

theorem mem_of_ahead (hj : j ∈ l.ahead ticket) : j ∈ l.tickets := (List.takeWhile_prefix _).subset hj

namespace Orderly

theorem ahead_ask (h : l.Orderly) (hmem : ticket ∈ l.tickets) (j : Nat) :
    (l.ask j).ahead ticket = l.ahead ticket := by
  unfold ahead
  rw [h.tickets_ask, List.takeWhile_append, if_neg]
  intro hlength
  have hall := List.takeWhile_eq_self_iff.mp ((List.takeWhile_prefix _).eq_of_length hlength) _ hmem
  simp at hall

theorem ahead_ask_self (h : l.Orderly) (hnew : ticket ∉ l.tickets) :
    (l.ask ticket).ahead ticket = l.tickets := by
  have hall : ∀ j ∈ l.tickets, decide (j ≠ ticket) = true := fun j hj =>
    decide_eq_true fun hjt => hnew (hjt ▸ hj)
  unfold ahead
  rw [h.tickets_ask, List.takeWhile_append_of_pos hall]
  simp

theorem ahead_leave (h : l.Orderly) (hj : j ≠ ticket) :
    (l.leave j).ahead ticket = (l.ahead ticket).filter (· ≠ j) := by
  have hstop : (fun i => !decide (i ≠ j) || decide (i ≠ ticket)) = fun i => decide (i ≠ ticket) := by
    funext i
    by_cases hi : i = j <;> simp [hi, hj]
  unfold ahead
  rw [h.tickets_leave, List.takeWhile_filter, hstop]

theorem line_of_leave (h : l.Orderly) (hmem : ticket ∈ (l.leave j).tickets) :
    ticket ≠ j ∧ ticket ∈ l.tickets ∧ ∀ i ∈ (l.leave j).ahead ticket, i ∈ l.ahead ticket := by
  rw [h.tickets_leave, List.mem_filter] at hmem
  have hj : ticket ≠ j := of_decide_eq_true hmem.2
  refine ⟨hj, hmem.1, fun i hi => ?_⟩
  rw [h.ahead_leave hj.symm] at hi
  exact (List.mem_filter.mp hi).1

end Orderly

end Lock

namespace Host

variable {h h' : Host} {ticket i j : Nat} {r q : Receive} {queue group : String} {answer : Poll Received}

theorem Acquires.own {a : Acquisition} (ha : Acquires ticket r h a h')
    (hr : h.service.receives.get? ticket = some r) (hq : h'.service.receives.get? ticket = some q) :
    q.queue = r.queue ∧ q.group = r.group := by
  cases ha with
  | inLine | found | refused | opened =>
      rw [hr] at hq
      cases hq
      exact ⟨rfl, rfl⟩
  | shut =>
      rw [Table.get?_insert_self] at hq
      cases hq
      exact ⟨rfl, rfl⟩

theorem Advances.names (ha : Advances ticket r h answer h') (hr : h.service.receives.get? ticket = some r)
    (hq : h'.service.receives.get? j = some q) :
    ∃ p, h.service.receives.get? j = some p ∧ q.queue = p.queue ∧ q.group = p.group := by
  by_cases hj : j = ticket
  · subst hj
    refine ⟨r, hr, ?_⟩
    cases ha with
    | idle =>
        rw [hr] at hq
        cases hq
        exact ⟨rfl, rfl⟩
    | woken _ _ _ _ _ _ hl =>
        obtain ⟨receives, hservice, hsettles⟩ := hl.settles
        rw [hservice] at hq
        obtain ⟨hqueue, hgroup, -⟩ := hsettles.departs.own hq
        exact ⟨hqueue, hgroup⟩
    | waits _ _ ha => exact ha.own hr hq
    | served _ _ _ _ _ _ _ _ hl =>
        obtain ⟨receives, hservice, hsettles⟩ := hl.settles
        rw [hservice] at hq
        obtain ⟨hqueue, hgroup, -⟩ := hsettles.departs.own hq
        exact ⟨hqueue, hgroup⟩
    | refused =>
        rw [Table.get?_erase_self] at hq
        cases hq
  · exact ⟨q, ha.others hj ▸ hq, rfl, rfl⟩

/-- While the receive is in line there is no session for its group, and nobody before it will open one. -/
structure Reserved (queue group : String) (ticket : Nat) (h : Host) : Prop where
  issued : ticket < h.service.nextTicket
  own : ∀ {r}, h.service.receives.get? ticket = some r → r.queue = queue ∧ r.group = group
  first : ∀ {j r}, ticket ∈ h.service.lock.tickets → j ∈ h.service.lock.ahead ticket →
    h.service.receives.get? j = some r → sessionKey r.queue r.group ≠ sessionKey queue group
  absent : ticket ∈ h.service.lock.tickets → h.service.sessions.get? (sessionKey queue group) = none

namespace Reserved

theorem enters (hres : h.Reserved queue group ticket) (hs : h.Sound) {q g : String}
    {a : Nat × Except ServiceError Receive} (he : Enters q g h a h') : h'.Reserved queue group ticket := by
  have hnext : ticket ≠ h.service.nextTicket := Nat.ne_of_lt hres.issued
  have hissued : ticket < h.service.nextTicket + 1 := Nat.lt_succ_of_lt hres.issued
  cases he with
  | refused => exact ⟨hissued, hres.own, hres.first, hres.absent⟩
  | entered s =>
      have horderly := hs.service.orderly
      have hbefore (hmem : ticket ∈ (h.service.lock.ask h.service.nextTicket).tickets) :
          ticket ∈ h.service.lock.tickets := by
        rw [horderly.tickets_ask] at hmem
        simpa [hnext] using hmem
      refine ⟨hissued, fun hr => ?_, fun hmem hj hr => ?_, fun hmem => hres.absent (hbefore hmem)⟩
      · rw [Table.get?_insert, if_neg hnext] at hr
        exact hres.own hr
      · rw [horderly.ahead_ask (hbefore hmem)] at hj
        rw [Table.get?_insert, if_neg] at hr
        · exact hres.first (hbefore hmem) hj hr
        · rintro rfl
          exact hs.service.not_mem_next (Lock.mem_of_ahead hj)

theorem left (hres : h.Reserved queue group ticket) (hs : h.Sound) {s : Site} {receives : Table Nat Receive}
    {sessions : NameMap Nat}
    (hnames : ∀ {j q}, receives.get? j = some q →
      ∃ p, h.service.receives.get? j = some p ∧ q.queue = p.queue ∧ q.group = p.group)
    (habsent : ticket ∈ (h.service.lock.leave i).tickets → sessions.get? (sessionKey queue group) = none) :
    Reserved queue group ticket
      ⟨s, { h.service with receives, sessions, lock := h.service.lock.leave i }⟩ where
  issued := hres.issued
  own hq := by
    obtain ⟨p, hp, hqueue, hgroup⟩ := hnames hq
    rw [hqueue, hgroup]
    exact hres.own hp
  first hmem hj hq := by
    obtain ⟨-, hline, hahead⟩ := hs.service.orderly.line_of_leave hmem
    obtain ⟨p, hp, hqueue, hgroup⟩ := hnames hq
    rw [hqueue, hgroup]
    exact hres.first hline (hahead _ hj) hp
  absent := habsent

theorem advances (hres : h.Reserved queue group ticket) (hs : h.Sound)
    (hr : h.service.receives.get? i = some r) (ha : Advances i r h answer h') :
    h'.Reserved queue group ticket := by
  have hnames {j : Nat} {q : Receive} (hq : h'.service.receives.get? j = some q) := ha.names hr hq
  have hturns := ha.turns
  rcases h' with ⟨s, service⟩
  cases hturns with
  | stays receives hservice =>
      subst hservice
      refine ⟨hres.issued, fun hq => ?_, fun hmem hj hq => ?_, hres.absent⟩
      · obtain ⟨p, hp, hqueue, hgroup⟩ := hnames hq
        rw [hqueue, hgroup]
        exact hres.own hp
      · obtain ⟨p, hp, hqueue, hgroup⟩ := hnames hq
        rw [hqueue, hgroup]
        exact hres.first hmem hj hp
  | leaves receives hservice =>
      subst hservice
      exact hres.left hs hnames fun hmem => hres.absent (hs.service.orderly.line_of_leave hmem).2.1
  | opens receives n hmay hservice =>
      subst hservice
      refine hres.left hs hnames fun hmem => ?_
      -- The session is of another group: only the owner opens one, and it stands ahead.
      obtain ⟨hi, hline, -⟩ := hs.service.orderly.line_of_leave hmem
      have howner := Lock.mem_ahead_of_owner (hs.mayOpen hr hmay).1 hi.symm
      rw [Table.get?_insert, if_neg (hres.first hline howner hr).symm]
      exact hres.absent hline

theorem cancels (hres : h.Reserved queue group ticket) (hs : h.Sound) (i : Nat) :
    Reserved queue group ticket ⟨h.site, { h.service with
      receives := h.service.receives.erase i, lock := h.service.lock.leave i }⟩ := by
  refine hres.left hs (fun hq => ?_) fun hmem => hres.absent (hs.service.orderly.line_of_leave hmem).2.1
  rw [Table.get?_erase] at hq
  split at hq
  · cases hq
  · exact ⟨_, hq, rfl, rfl⟩

theorem move (hres : h.Reserved queue group ticket) (hs : h.Sound) (hm : Move Site.Extends h h') :
    h'.Reserved queue group ticket := by
  cases hm with
  | task => exact ⟨hres.issued, hres.own, hres.first, hres.absent⟩
  | enter _ _ _ _ _ he => exact hres.enters hs he
  | advance _ _ _ _ _ hr ha => exact hres.advances hs hr ha
  | cancel i => exact hres.cancels hs i
  | drop key =>
      refine ⟨hres.issued, hres.own, hres.first, fun hmem => ?_⟩
      rw [Table.get?_erase, hres.absent hmem]
      exact ite_self none
  | clear => exact ⟨hres.issued, hres.own, hres.first, fun _ => Table.get?_empty _⟩

theorem steps (hres : h.Reserved queue group ticket) (hs : h.Sound) (es : List Event) :
    (Host.steps es h).2.Reserved queue group ticket := by
  have hrun : (Host.steps es h).2.Sound ∧ (Host.steps es h).2.Reserved queue group ticket :=
    steps_keep (P := fun k => k.Sound ∧ k.Reserved queue group ticket)
      (fun e _ hk => step_keep (P := fun k => k.Sound ∧ k.Reserved queue group ticket)
        (fun _ _ hm hk => ⟨hk.1.move hm, hk.2.move hk.1 hm⟩) e hk) es ⟨hs, hres⟩
  exact hrun.2

end Reserved

/-- A receive that comes when its group has no session, and no other of the group is in line. -/
theorem start_reserved (hs : h.Sound) (habsent : h.service.sessions.get? (sessionKey queue group) = none)
    (hothers : ∀ {j r}, h.service.receives.get? j = some r → r.queue = queue → r.group = group →
      ¬ r.stage.atLock) : (start queue group h).2.Reserved queue group h.service.nextTicket := by
  have hnew : h.service.nextTicket ∉ h.service.lock.tickets := hs.service.not_mem_next
  have hunused {r : Receive} (hr : h.service.receives.get? h.service.nextTicket = some r) : False :=
    Nat.lt_irrefl _ (hs.service.issued hr)
  obtain ⟨e, h', he, hrun⟩ | ⟨h₁, he, hrun⟩ := start_cases queue group h
  · rw [hrun]
    cases he with
    | refused e s =>
        exact ⟨Nat.lt_succ_self _, fun hr => (hunused hr).elim, fun hmem => absurd hmem hnew,
          fun _ => habsent⟩
  · rw [hrun]
    have hentered : h₁.Reserved queue group h.service.nextTicket := by
      cases he with
      | entered s =>
          refine ⟨Nat.lt_succ_self _, fun hr => ?_, fun {j r} hmem hj hr hkey => ?_, fun _ => habsent⟩
          · rw [Table.get?_insert_self] at hr
            cases hr
            exact ⟨rfl, rfl⟩
          · rw [hs.service.orderly.ahead_ask_self hnew] at hj
            rw [Table.get?_insert, if_neg] at hr
            -- Whoever stands ahead is at the lock, so by assumption it is of another group.
            · obtain ⟨q, hq, hlock⟩ := (hs.service.atLock j).mp hj
              rw [hr] at hq
              cases hq
              obtain ⟨hqueue, hgroup⟩ := hs.service.named hr
              obtain ⟨hqueue, hgroup⟩ := sessionKey_inj hqueue hgroup hkey
              exact hothers hr hqueue hgroup hlock
            · rintro rfl
              exact hnew hj
    exact hentered.advances (hs.enters he) he.outstanding (advance_advances _ _ h₁)

end Host

end ManagedQueue
