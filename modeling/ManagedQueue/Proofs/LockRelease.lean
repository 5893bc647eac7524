import ManagedQueue.Proofs.BlockedReceive
import ManagedQueue.Proofs.DeliveryOrder
import ManagedQueue.Proofs.Wakeups
import Mathlib.Data.List.Induction

namespace ManagedQueue

namespace Host

variable {saved : Snapshot} {h h' : Host} {ticket : Nat} {r : Receive} {answer : Poll Received}

theorem steps_concat (es : List Event) (e : Event) (h : Host) :
    (steps (es ++ [e]) h).2 = (step e (steps es h).2).2 := by
  induction es generalizing h with
  | nil => rfl
  | cons first es ih => exact ih (step first h).2

theorem Sound.owner_outstanding (hs : h.Sound) (ho : h.service.lock.owner = some ticket) :
    ∃ r, h.service.receives.get? ticket = some r ∧ r.stage.atLock :=
  (hs.service.atLock ticket).mp (by simp [Lock.tickets, ho])

theorem Settles.not_atLock {session : Nat} {before after : Table Nat Receive} {q : Receive}
    (hs : Settles ticket r session before after) (hq : after.get? ticket = some q) : ¬ q.stage.atLock :=
  (hs.departs.own hq).2.2

theorem Advances.opening (ha : Advances ticket r h answer h') (hs : h'.Sound)
    (hr : h.service.receives.get? ticket = some r) (ho : h'.service.lock.owner = some ticket) {q : Receive}
    (hq : h'.service.receives.get? ticket = some q) : q.stage = .opening := by
  obtain ⟨q', hq', hlock⟩ := hs.owner_outstanding ho
  rw [hq] at hq'
  cases hq'
  -- Of the ways to go on, only an opening that waits at the gate keeps the lock.
  cases ha with
  | idle _ _ hstage =>
      rw [hr] at hq
      cases hq
      rw [hstage] at hlock
      exact hlock.elim
  | woken _ _ _ _ _ _ hl =>
      obtain ⟨receives, hservice, hsettles⟩ := hl.settles
      rw [hservice] at hq
      exact absurd hlock (hsettles.not_atLock hq)
  | waits _ _ ha =>
      cases ha with
      | inLine _ howner => exact absurd ho howner
      | shut =>
          rw [Table.get?_insert_self] at hq
          cases hq
          rfl
  | served _ _ _ _ _ _ _ _ hl =>
      obtain ⟨receives, hservice, hsettles⟩ := hl.settles
      rw [hservice] at hq
      exact absurd hlock (hsettles.not_atLock hq)
  | refused =>
      rw [Table.get?_erase_self] at hq
      cases hq

/-- At some step of the run the receive was handed the lock, and it was not polled in that step or
since. -/
def Handed (start : Host) (es : List Event) (ticket : Nat) : Prop :=
  ∃ before e after, es = before ++ e :: after ∧
    (steps before start).2.service.lock.owner ≠ some ticket ∧
    (steps (before ++ [e]) start).2.service.lock.owner = some ticket ∧
    e ≠ .poll ticket ∧ .poll ticket ∉ after

theorem step_inLine (hs : h.Sound) {e : Event} (ho : (step e h).2.service.lock.owner = some ticket)
    (hr : (step e h).2.service.receives.get? ticket = some r) (hstage : r.stage = .inLine) :
    e ≠ .poll ticket ∧ (h.service.lock.owner = some ticket → h.service.receives.get? ticket = some r) := by
  have hpoll : e ≠ .poll ticket := by
    rintro rfl
    have hs' := hs.step (.poll ticket)
    rw [step_poll] at ho hr hs'
    cases hq : h.service.receives.get? ticket with
    | none =>
        rw [poll_none hq] at hr
        rw [hq] at hr
        cases hr
    | some q =>
        rw [poll_some hq] at ho hr hs'
        have hopening := (advance_advances ticket q h).opening hs' hq ho hr
        rw [hopening] at hstage
        cases hstage
  refine ⟨hpoll, fun howner => ?_⟩
  obtain ⟨q, hq, -⟩ := hs.owner_outstanding howner
  have hcancel : e ≠ .cancel ticket := by
    rintro rfl
    change (cancel ticket h).2.service.receives.get? ticket = _ at hr
    rw [cancel_outstanding, if_pos rfl] at hr
    cases hr
  rw [step_outstanding hs hq hpoll hcancel] at hr
  rw [hq, hr]

/-- An owner that stands in line has been handed the lock. -/
theorem handed_of_inLine (settings : Settings) (site : Site) (es : List Event) :
    let start : Host := ⟨site, { settings }⟩
    let h := (steps es start).2
    ∀ {ticket r}, h.service.lock.owner = some ticket → h.service.receives.get? ticket = some r →
      r.stage = .inLine → Handed start es ticket := by
  intro start
  induction es using List.reverseRecOn with
  | nil => exact fun ho => by cases ho
  | append_singleton es e ih =>
      intro h ticket r ho hr hstage
      have hrun : h = (step e (steps es start).2).2 := steps_concat es e start
      have hs : (steps es start).2.Sound := steps_sound settings site es
      rw [hrun] at hr
      obtain ⟨hpoll, hkept⟩ := step_inLine hs (hrun ▸ ho) hr hstage
      -- Either the lock was there already, and the handing over is earlier in the run, or this event is it.
      by_cases howner : (steps es start).2.service.lock.owner = some ticket
      · obtain ⟨before, first, after, hes, hbefore, hhanded, hfirst, hafter⟩ :=
          ih howner (hkept howner) hstage
        refine ⟨before, first, after ++ [e], by rw [hes]; simp, hbefore, hhanded, hfirst, ?_⟩
        rw [List.mem_append, List.mem_singleton]
        rintro (hmem | rfl)
        · exact hafter hmem
        · exact hpoll rfl
      · exact ⟨es, e, [], rfl, howner, ho, hpoll, List.not_mem_nil⟩

theorem cancel_all (tickets : List Nat) (j : Nat) (h : Host) :
    (steps (tickets.map .cancel) h).2.service.receives.get? j =
      if j ∈ tickets then none else h.service.receives.get? j := by
  induction tickets generalizing h with
  | nil => rfl
  | cons ticket rest ih =>
      have hrest := ih (cancel ticket h).2
      rw [cancel_outstanding] at hrest
      change (steps (rest.map .cancel) (cancel ticket h).2).2.service.receives.get? j = _
      rw [hrest]
      by_cases hj : j = ticket
      · simp [hj]
      · simp [hj]

theorem Sound.lock_free (hs : h.Sound) (hfree : h.service.lock.owner = none) : h.service.lock = {} := by
  have hparts : h.service.lock = ⟨h.service.lock.owner, h.service.lock.line⟩ := rfl
  rw [hparts, hfree, hs.service.orderly.free hfree]

theorem Sound.lock_free_of_alone (hs : h.Sound) (hnone : ∀ ticket, h.service.receives.get? ticket = none) :
    h.service.lock = {} := by
  have htickets : h.service.lock.tickets = [] := by
    apply List.eq_nil_iff_forall_not_mem.mpr
    intro ticket hmem
    obtain ⟨r, hr, -⟩ := (hs.service.atLock ticket).mp hmem
    rw [hnone] at hr
    cases hr
  apply hs.lock_free
  cases ho : h.service.lock.owner with
  | none => rfl
  | some owner =>
      rw [Lock.tickets, ho] at htickets
      cases htickets

theorem locked_pending {α : Type} (action : HostM α) (h : Host) :
    (locked action h).1 = .pending ↔ h.service.lock.owner.isSome := by
  rw [locked_run]
  cases h.service.lock.owner <;> simp

theorem pending_of_idle {s : Site} {session : Nat} {queue group : String}
    (hidle : s.backend.Idle session queue group) : (Site.pending queue group s).1 = 0 := by
  rw [pending_undelivered, Backend.undelivered]
  cases hfeed : s.backend.feed queue group with
  | none => rfl
  | some f =>
      obtain ⟨log, n⟩ := f
      have hdrop : log.drop n = [] := List.drop_eq_nil_of_le (hidle.nothing log n hfeed)
      simp only [Option.map_some, Option.getD_some, hdrop, List.length_nil]

theorem Sound.owned (hs : h.Sound) (hr : h.service.receives.get? ticket = some r)
    (hlock : r.stage.atLock) : h.service.lock.owner.isSome := by
  have hmem := (hs.service.atLock ticket).mpr ⟨r, hr, hlock⟩
  cases ho : h.service.lock.owner with
  | some owner => rfl
  | none =>
      rw [Lock.tickets, ho, hs.service.orderly.free ho] at hmem
      cases hmem

/-- A receive that has to wait although there is a message for it stands at a lock that is owned. -/
theorem Watchful.owned {e : Event} (hw : h.Watchful saved)
    (hp : polled e h = some (ticket, .pending, h')) (hr : h'.service.receives.get? ticket = some r)
    (hpending : 0 < (Site.pending r.queue r.group h'.site).1) : h'.service.lock.owner.isSome := by
  obtain ⟨hw', hupToDate⟩ := hw.of_polled hp
  refine hw'.sound.owned hr ?_
  cases hstage : r.stage with
  | inLine | opening => trivial
  | waiting n w =>
      have hidle := (hw'.waiting hr hstage).idle (hupToDate hr hstage)
      rw [pending_of_idle hidle] at hpending
      exact absurd hpending (Nat.lt_irrefl 0)

/-- In every run from any saved state, with any failures, openings that wait and receives given up:
the lock is free and nobody stands in line, or it is owned by an outstanding receive that is
opening its session or has been handed the lock and not been polled since. No receive that waits for
a message has a place at it. So a call has to wait for the lock only while there is such an owner,
and so has a receive for which there is a message; whatever comes after goes as it would without
a receive that waits for a message; and once all receives are given up the lock is free. -/
theorem lock_released (settings : Settings) (s : Snapshot) (clock : Int64) (site : Site)
    (es : List Event) :
    let start : Host := ⟨{ site with backend := s.restore clock }, { settings }⟩
    let h := (steps es start).2
    (h.service.lock = {} ∨ ∃ ticket r, h.service.lock.owner = some ticket ∧
      h.service.receives.get? ticket = some r ∧
      (r.stage = .opening ∨ r.stage = .inLine ∧ Handed start es ticket)) ∧
    (h.service.lock.tickets.Nodup ∧ ∀ ticket, ticket ∈ h.service.lock.tickets ↔
      ∃ r, h.service.receives.get? ticket = some r ∧ ∀ n w, r.stage ≠ .waiting n w) ∧
    ((sessionCount h).1 = .pending ↔ h.service.lock.owner.isSome) ∧
    (∀ queue group, (closeSession queue group h).1 = .pending ↔ h.service.lock.owner.isSome) ∧
    ((shutdown h).1 = .pending ↔ h.service.lock.owner.isSome) ∧
    (∀ e ticket h' r, polled e h = some (ticket, .pending, h') →
      h'.service.receives.get? ticket = some r →
      0 < (Site.pending r.queue r.group h'.site).1 → h'.service.lock.owner.isSome) ∧
    (∀ ticket r n w later, h.service.receives.get? ticket = some r → r.stage = .waiting n w →
      .poll ticket ∉ later → .cancel ticket ∉ later →
      (steps later (cancel ticket h).2).1 = (steps later h).1) ∧
    ∀ tickets : List Nat, (∀ ticket, h.service.receives.contains ticket → ticket ∈ tickets) →
      (steps (tickets.map .cancel) h).2.service.lock = {} := by
  intro start h
  have hw : h.Watchful s := steps_watchful settings (Backend.restore_numbered s clock) es
  have hs := hw.sound
  refine ⟨?_, ⟨hs.service.orderly.nodup, fun ticket => ?_⟩, locked_pending _ h,
    fun queue group => locked_pending _ h, locked_pending _ h, fun e ticket h' r => hw.owned,
    fun ticket r n w later hr hstage hpoll hcancel => ?_, fun tickets hall => ?_⟩
  · cases ho : h.service.lock.owner with
    | none => exact .inl (hs.lock_free ho)
    | some ticket =>
        obtain ⟨r, hr, hlock⟩ := hs.owner_outstanding ho
        refine .inr ⟨ticket, r, rfl, hr, ?_⟩
        cases hstage : r.stage with
        | opening => exact .inl rfl
        | inLine => exact .inr ⟨rfl, handed_of_inLine settings _ es ho hr hstage⟩
        | waiting n w =>
            rw [hstage] at hlock
            exact hlock.elim
  · simp only [hs.service.atLock, Stage.atLock_iff]
  · rw [cancel_of_waiting hs hr hstage, steps_without hs hr hpoll hcancel]
  -- With every receive cancelled nobody is left to own the lock.
  · refine Sound.lock_free_of_alone (steps_keep (fun e _ hs => hs.step e) _ hs) fun ticket => ?_
    rw [cancel_all]
    split
    · rfl
    · next hnot =>
      rw [← Option.not_isSome_iff_eq_none]
      exact fun hsome => hnot (hall ticket hsome)

/-- The second receive is handed the lock when the first is given up. It delays every other call until it
is polled, and nothing once it waits for a message. -/
example :
    let before : List Event := [.request (.createQueue "q"), .condition (.gate true), .start "q" "g",
      .start "q" "h", .condition (.gate false), .cancel 0]
    let h := (steps before ⟨{}, { settings := ⟨["broker"], "registry", 1, 1⟩ }⟩).2
    h.service.lock = { owner := some 1 } ∧ (sessionCount h).1 = .pending ∧
      (step (.poll 1) h).2.service.lock = {} ∧ (sessionCount (step (.poll 1) h).2).1 = .ready 1 := by
  decide +kernel

end Host

end ManagedQueue
