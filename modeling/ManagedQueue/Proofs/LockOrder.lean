import ManagedQueue.Proofs.HostMoves

namespace ManagedQueue

namespace Lock

def tickets (l : Lock) : List Nat := l.owner.toList ++ l.line

theorem owner_leave (l : Lock) (ticket : Nat) :
    (l.leave ticket).owner = if l.owner = some ticket then l.line.head? else l.owner := by
  unfold leave
  split
  · cases hl : l.line <;> simp [handOn, hl]
  · rfl

theorem leave_of_not_mem {l : Lock} {ticket : Nat} (hnew : ticket ∉ l.tickets) : l.leave ticket = l := by
  have ho : l.owner ≠ some ticket := fun ho => hnew (by simp [tickets, ho])
  have hline : l.line.filter (· ≠ ticket) = l.line :=
    List.filter_eq_self.mpr fun a ha => decide_eq_true fun hat => hnew (by simp [tickets, hat ▸ ha])
  rw [leave, if_neg ho, hline]

/-- Nobody asks twice, and a free lock keeps nobody waiting. -/
structure Orderly (l : Lock) : Prop where
  nodup : l.tickets.Nodup
  free : l.owner = none → l.line = []

namespace Orderly

variable {l : Lock} {ticket : Nat}

theorem tickets_ask (h : l.Orderly) (ticket : Nat) : (l.ask ticket).tickets = l.tickets ++ [ticket] := by
  cases ho : l.owner with
  | none => simp [ask, tickets, ho, h.free ho]
  | some owner => simp [ask, tickets, ho]

theorem ask (h : l.Orderly) (hnew : ticket ∉ l.tickets) : (l.ask ticket).Orderly := by
  constructor
  · rw [h.tickets_ask, List.nodup_append]
    refine ⟨h.nodup, by simp, fun a ha b hb hab => ?_⟩
    rw [List.mem_singleton.mp hb] at hab
    exact hnew (hab ▸ ha)
  · cases ho : l.owner <;> simp [Lock.ask, ho]

theorem line_of_owner (h : l.Orderly) (ho : l.owner = some ticket) :
    l.tickets = ticket :: l.line ∧ ticket ∉ l.line := by
  have hnodup := h.nodup
  unfold tickets at hnodup ⊢
  rw [ho] at hnodup ⊢
  exact ⟨rfl, (List.nodup_cons.mp hnodup).1⟩

theorem tickets_leave (h : l.Orderly) (ticket : Nat) :
    (l.leave ticket).tickets = l.tickets.filter (· ≠ ticket) := by
  unfold leave
  split
  · next ho =>
    obtain ⟨htickets, hline⟩ := h.line_of_owner ho
    have hrest : l.line.filter (· ≠ ticket) = l.line :=
      List.filter_eq_self.mpr fun a ha => decide_eq_true fun hat => hline (hat ▸ ha)
    rw [htickets, List.filter_cons_of_neg (by simp), hrest]
    cases hl : l.line <;> simp [handOn, tickets, hl]
  · next ho =>
    cases howner : l.owner with
    | none => simp [tickets, howner]
    | some owner =>
        have hne : owner ≠ ticket := fun he => ho (by rw [howner, he])
        simp [tickets, howner, hne]

theorem leave (h : l.Orderly) (ticket : Nat) : (l.leave ticket).Orderly := by
  constructor
  · rw [h.tickets_leave]
    exact h.nodup.filter _
  · unfold Lock.leave
    split
    · cases hl : l.line <;> simp [handOn, hl]
    · intro ho
      simp [h.free ho]

end Orderly

end Lock

/-- The receive has no session yet: it stands in line for the lock or owns it. -/
def Stage.atLock : Stage → Prop
  | .inLine | .opening => True
  | .waiting _ _ => False

theorem Stage.atLock_iff (s : Stage) : s.atLock ↔ ∀ n w, s ≠ .waiting n w := by
  cases s <;> simp [atLock]

structure Service.Sound (s : Service) : Prop where
  orderly : s.lock.Orderly
  atLock : ∀ ticket, ticket ∈ s.lock.tickets ↔
    ∃ r, s.receives.get? ticket = some r ∧ r.stage.atLock
  opening : ∀ {ticket r}, s.receives.get? ticket = some r → r.stage = .opening →
    s.lock.owner = some ticket ∧ s.sessions.get? (sessionKey r.queue r.group) = none
  issued : ∀ {ticket r}, s.receives.get? ticket = some r → ticket < s.nextTicket
  named : ∀ {ticket r}, s.receives.get? ticket = some r →
    nameFault? r.queue = none ∧ nameFault? r.group = none

namespace Service.Sound

variable {s : Service} {ticket : Nat} {r : Receive}

theorem start (settings : Settings) : Service.Sound { settings } where
  orderly := ⟨.nil, fun _ => rfl⟩
  atLock := by simp [Lock.tickets]
  opening := by simp
  issued := by simp
  named := by simp

theorem not_mem_next (h : s.Sound) : s.nextTicket ∉ s.lock.tickets := by
  intro hm
  obtain ⟨r, hr, -⟩ := (h.atLock _).mp hm
  exact Nat.lt_irrefl _ (h.issued hr)

theorem skip (h : s.Sound) : Service.Sound { s with nextTicket := s.nextTicket + 1 } :=
  { h with issued := fun hr => Nat.lt_succ_of_lt (h.issued hr) }

theorem enter (h : s.Sound) {queue group : String} (hqueue : nameFault? queue = none)
    (hgroup : nameFault? group = none) : Service.Sound { s with
      nextTicket := s.nextTicket + 1
      receives := s.receives.insert s.nextTicket ⟨queue, group, .inLine⟩
      lock := s.lock.ask s.nextTicket } where
  orderly := h.orderly.ask h.not_mem_next
  atLock := by
    intro j
    rw [h.orderly.tickets_ask, Table.get?_insert]
    by_cases hj : j = s.nextTicket
    · simp [hj, Stage.atLock]
    · simp [hj, h.atLock]
  opening := by
    intro j q hq hstage
    rw [Table.get?_insert] at hq
    split at hq
    · cases hq
      cases hstage
    · obtain ⟨ho, hn⟩ := h.opening hq hstage
      exact ⟨by simp [Lock.ask, ho], hn⟩
  issued := by
    intro j q hq
    rw [Table.get?_insert] at hq
    split at hq
    · next hj => exact hj ▸ Nat.lt_succ_self _
    · exact Nat.lt_succ_of_lt (h.issued hq)
  named := by
    intro j q hq
    rw [Table.get?_insert] at hq
    split at hq
    · cases hq
      exact ⟨hqueue, hgroup⟩
    · exact h.named hq

theorem suspend (h : s.Sound) (hr : s.receives.get? ticket = some r)
    (ho : s.lock.owner = some ticket) (hn : s.sessions.get? (sessionKey r.queue r.group) = none) :
    Service.Sound { s with receives := s.receives.insert ticket { r with stage := .opening } } where
  orderly := h.orderly
  atLock := by
    intro j
    rw [Table.get?_insert]
    by_cases hj : j = ticket
    · simp [hj, Stage.atLock, Lock.tickets, ho]
    · simp [hj, h.atLock]
  opening := by
    intro j q hq hstage
    rw [Table.get?_insert] at hq
    split at hq
    · next hj =>
      cases hq
      exact ⟨hj ▸ ho, hn⟩
    · exact h.opening hq hstage
  issued := by
    intro j q hq
    rw [Table.get?_insert] at hq
    split at hq
    · next hj =>
      rw [hj]
      exact h.issued hr
    · exact h.issued hq
  named := by
    intro j q hq
    rw [Table.get?_insert] at hq
    split at hq
    · cases hq
      exact h.named (r := r) hr
    · exact h.named hq

/-- No receive but this one changes, and it no longer needs the lock. -/
structure Departs (ticket : Nat) (r : Receive) (before after : Table Nat Receive) : Prop where
  others : ∀ {j}, j ≠ ticket → after.get? j = before.get? j
  own : ∀ {q}, after.get? ticket = some q →
    q.queue = r.queue ∧ q.group = r.group ∧ ¬ q.stage.atLock

/-- Who leaves the lock with its receive leaves the rest in order. Sessions may have changed if it
owned the lock: no receive that is left is opening one then. -/
theorem depart (h : s.Sound) (hr : s.receives.get? ticket = some r) {sessions : NameMap Nat}
    (hsessions : sessions = s.sessions ∨ s.lock.owner = some ticket) {receives : Table Nat Receive}
    (hd : Departs ticket r s.receives receives) :
    Service.Sound { s with sessions, receives, lock := s.lock.leave ticket } where
  orderly := h.orderly.leave ticket
  atLock := by
    intro j
    rw [h.orderly.tickets_leave]
    by_cases hj : j = ticket
    · subst hj
      simpa using fun q hq => (hd.own hq).2.2
    · simp [hj, h.atLock, hd.others hj]
  opening := by
    intro j q hq hstage
    by_cases hj : j = ticket
    · subst hj
      exact absurd (by simp [hstage, Stage.atLock]) (hd.own hq).2.2
    · rw [hd.others hj] at hq
      obtain ⟨ho, hn⟩ := h.opening hq hstage
      -- Whoever is opening owns the lock, so it is not the one that leaves.
      have hne : s.lock.owner ≠ some ticket := by simpa [ho] using hj
      rw [Lock.owner_leave, if_neg hne, hsessions.resolve_right hne]
      exact ⟨ho, hn⟩
  issued := by
    intro j q hq
    by_cases hj : j = ticket
    · rw [hj]
      exact h.issued hr
    · exact h.issued (hd.others hj ▸ hq)
  named := by
    intro j q hq
    by_cases hj : j = ticket
    · subst hj
      obtain ⟨hqueue, hgroup, -⟩ := hd.own hq
      rw [hqueue, hgroup]
      exact h.named hr
    · exact h.named (hd.others hj ▸ hq)

theorem forget (h : s.Sound) (hfree : s.lock.owner = none) (sessions : NameMap Nat) :
    Service.Sound { s with sessions } :=
  { h with opening := fun hr hstage => by simp [(h.opening hr hstage).1] at hfree }

end Service.Sound

end ManagedQueue
