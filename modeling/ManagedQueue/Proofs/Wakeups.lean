import ManagedQueue.Proofs.BlockedReceive
import ManagedQueue.Proofs.Happenings

namespace ManagedQueue

theorem Feed.nothing {queue group : String} {s t : Option (List Payload × Nat)} {H : List Happening}
    (h : Feed queue group s H t) (hsent : ∀ payload, .sent queue payload ∉ H)
    (hs : ∀ log n, s = some (log, n) → log.length ≤ n) :
    ∀ log n, t = some (log, n) → log.length ≤ n := by
  induction h with
  | done => exact hs
  | created h ih =>
      apply ih fun payload hmem => hsent payload (.tail _ hmem)
      intro log n he
      cases he
      exact Nat.le_refl 0
  | deleted h ih =>
      apply ih fun payload hmem => hsent payload (.tail _ hmem)
      intro log n he
      cases he
  | sent h => exact absurd (.head _) (hsent _)
  | received hp h =>
      obtain ⟨hn, -⟩ := List.getElem?_eq_some_iff.mp hp
      exact absurd (hs _ _ rfl) (Nat.not_le_of_lt hn)
  | aside hx h ih => exact ih (fun payload hmem => hsent payload (.tail _ hmem)) hs

namespace Backend

/-- There is nothing for the session: it is open, and if its queue has a topic, the log holds no
message at or beyond the group's place. -/
structure Idle (b : Backend) (session : Nat) (queue group : String) : Prop where
  opened : b.transport.sessions[session]? = some ⟨queue, group, false⟩
  nothing : ∀ log n, b.feed queue group = some (log, n) → log.length ≤ n

theorem Idle.evolves {closes : Nat → Prop} {saved : Snapshot} {b c : Backend} {D : List Happening}
    {session : Nat} {queue group : String} (hidle : b.Idle session queue group)
    (h : Evolves closes b D c) (hb : b.Numbered saved)
    (hbound : b.transport.bindings.contains queue)
    (hw : c.transport.wakeups = b.transport.wakeups) : c.Idle session queue group where
  opened := (h.asleep hw).2 session _ hidle.opened
  nothing := by
    have hfeed := h.feed hb queue group fun _ => if_pos hbound
    exact hfeed.nothing (fun payload => (h.asleep hw).1 queue payload) hidle.nothing

end Backend

/-- A receive that waits has looked at a queue that was bound then, and if no wakeup has come since there
is nothing for it. -/
structure Backend.Awaits (b : Backend) (session wakeups : Nat) (queue group : String) : Prop where
  looked : wakeups ≤ b.transport.wakeups
  bound : b.transport.bindings.contains queue
  idle : wakeups = b.transport.wakeups → b.Idle session queue group

theorem Backend.Awaits.evolves {closes : Nat → Prop} {saved : Snapshot} {b c : Backend}
    {D : List Happening} {session wakeups : Nat} {queue group : String}
    (ha : b.Awaits session wakeups queue group) (h : Evolves closes b D c) (hb : b.Numbered saved) :
    c.Awaits session wakeups queue group where
  looked := Nat.le_trans ha.looked h.wakeups_le
  bound := h.bindings ha.bound
  idle hw := by
    have hstill : c.transport.wakeups = b.transport.wakeups :=
      Nat.le_antisymm (hw ▸ ha.looked) h.wakeups_le
    exact (ha.idle (hw.trans hstill)).evolves h hb ha.bound hstill

theorem Site.Looks.idle {session : Nat} {queue group : String} {s t : Site}
    (h : Looks session s (.ok none) t) (hreads : s.backend.transport.Reads session queue group) :
    s.backend.Idle session queue group := by
  obtain ⟨i, hi, hopen, hnone, -⟩ := h.succeeds rfl hreads
  refine ⟨hopen, fun log n hfeed => ?_⟩
  rw [Backend.feed_of_bind hi] at hfeed
  cases hfeed
  apply List.getElem?_eq_none_iff.mp
  rw [← Transport.take_fst, hnone]

theorem Site.Looks.awaits {saved : Snapshot} {session : Nat} {queue group : String} {s t : Site}
    (h : Looks session s (.ok none) t) (hreads : s.backend.transport.Reads session queue group)
    (hb : s.backend.Numbered saved) :
    t.backend.Awaits session t.backend.transport.wakeups queue group := by
  obtain ⟨i, -, -, -, ht⟩ := h.succeeds rfl hreads
  have hidle := h.idle hreads
  have hevolves : Backend.Evolves (fun _ => False) s.backend [] t.backend := h.evolves hreads
  have hstill := hevolves.wakeups_eq (by simp) fun _ => id
  constructor
  · exact Nat.le_refl _
  · have htouches := (Transport.bind_touches s.backend.transport queue i).take group
    rw [ht.transport]
    exact Option.isSome_of_eq_some htouches.bound
  · intro _
    refine ⟨(hevolves.asleep hstill).2 session _ hidle.opened, ?_⟩
    rw [hevolves.feed_eq hb]
    exact hidle.nothing

namespace Host

/-- Every receive that waits does so with reason. -/
structure Watchful (saved : Snapshot) (h : Host) : Prop where
  sound : h.Sound
  numbered : h.site.backend.Numbered saved
  waiting : ∀ {ticket r n w}, h.service.receives.get? ticket = some r → r.stage = .waiting n w →
    h.site.backend.Awaits n w r.queue r.group

variable {saved : Snapshot} {h h' : Host} {ticket : Nat} {r : Receive} {answer : Poll Received}

/-- The receives that wait were there before, or have looked just now. -/
def WaitsAnew (before after : Host) : Prop :=
  ∀ j q n w, after.service.receives.get? j = some q → q.stage = .waiting n w →
    before.service.receives.get? j = some q ∨ w = after.site.backend.transport.wakeups ∧
      after.site.backend.Awaits n w q.queue q.group

theorem waitsAnew_of_erase (hreceives : h'.service.receives = h.service.receives.erase ticket) :
    WaitsAnew h h' := by
  intro _ _ _ _ hq _
  rw [hreceives, Table.get?_erase] at hq
  split at hq
  · cases hq
  · exact .inl hq

theorem LooksNow.waitsAnew {session : Nat} (hl : LooksNow ticket r session h answer h')
    (hreads : h.site.backend.transport.Reads session r.queue r.group)
    (hb : h.site.backend.Numbered saved) : WaitsAnew h h' := by
  cases hl with
  | failed | received => exact waitsAnew_of_erase rfl
  | quiet s hs =>
      intro j q n w hq hstage
      rw [Table.get?_insert] at hq
      split at hq
      · cases hq
        cases hstage
        exact .inr ⟨rfl, hs.awaits hreads hb⟩
      · exact .inl hq

theorem Listens.waitsAnew {session : Nat} (hl : Listens ticket r session h answer h')
    (hreads : h.site.backend.transport.Reads session r.queue r.group)
    (hb : h.site.backend.Numbered saved) : WaitsAnew h h' := by
  cases hl with
  | struck => exact waitsAnew_of_erase rfl
  | looked _ _ _ hl => exact hl.waitsAnew (h := ⟨h.site.counted .receive, h.service⟩) hreads hb

theorem Acquires.waiting {a : Acquisition} (ha : Acquires ticket r h a h') {j n w : Nat} {q : Receive}
    (hq : h'.service.receives.get? j = some q) (hstage : q.stage = .waiting n w) :
    h.service.receives.get? j = some q := by
  cases ha with
  | inLine | found | refused | opened => exact hq
  | shut =>
      rw [Table.get?_insert] at hq
      split at hq
      · cases hq
        cases hstage
      · exact hq

theorem Advances.waitsAnew (ha : Advances ticket r h answer h') (hw : h.Watchful saved)
    (hr : h.service.receives.get? ticket = some r) : WaitsAnew h h' := by
  cases ha with
  | idle => exact fun _ _ _ _ hq _ => .inl hq
  | woken session wakeups _ _ hstage _ hl =>
      exact hl.waitsAnew (hw.sound.waiting hr hstage) hw.numbered
  | waits _ _ ha => exact fun _ _ _ _ hq hstage => .inl (ha.waiting hq hstage)
  | served a n h₁ _ _ _ ha hn hl =>
      have hacquired : Backend.Evolves (fun _ => False) h.site.backend _ h₁.site.backend := ha.evolves
      have hlistened := hl.waitsAnew (hw.sound.acquires_reads hr ha hn) (hacquired.numbered hw.numbered)
      exact fun j q m w hq hstage =>
        (hlistened j q m w hq hstage).imp_left fun hq => ha.waiting hq hstage
  | refused e h₁ _ ha =>
      have herased : WaitsAnew h₁ ⟨h₁.site, { h₁.service with
        receives := h₁.service.receives.erase ticket }⟩ := waitsAnew_of_erase rfl
      exact fun j q n w hq hstage =>
        (herased j q n w hq hstage).imp_left fun hq => ha.waiting hq hstage

theorem LooksNow.upToDate {session n w : Nat} {q : Receive}
    (hl : LooksNow ticket r session h .pending h') (hq : h'.service.receives.get? ticket = some q)
    (hstage : q.stage = .waiting n w) : w = h'.site.backend.transport.wakeups := by
  cases hl with
  | quiet s hs =>
      rw [Table.get?_insert_self] at hq
      cases hq
      cases hstage
      rfl

theorem Advances.upToDate (ha : Advances ticket r h .pending h')
    (hr : h.service.receives.get? ticket = some r) {q : Receive} {n w : Nat}
    (hq : h'.service.receives.get? ticket = some q) (hstage : q.stage = .waiting n w) :
    w = h'.site.backend.transport.wakeups := by
  cases ha with
  | idle session wakeups hown hw =>
      rw [hr] at hq
      cases hq
      rw [hown] at hstage
      cases hstage
      exact hw.symm
  | woken _ _ _ _ _ _ hl => exact hl.upToDate hq hstage
  | waits _ hnot ha =>
      have hown := ha.waiting hq hstage
      rw [hr] at hown
      cases hown
      exact absurd hstage (hnot n w)
  | served _ _ _ _ _ _ _ _ hl =>
      cases hl with
      | looked _ _ _ hl => exact hl.upToDate hq hstage

namespace Watchful

theorem of_waitsAnew {closes : Nat → Prop} {D : List Happening} (hw : h.Watchful saved)
    (hs : h'.Sound) (hevolves : Backend.Evolves closes h.site.backend D h'.site.backend)
    (hwaits : WaitsAnew h h') : h'.Watchful saved where
  sound := hs
  numbered := hevolves.numbered hw.numbered
  waiting hq hstage := by
    rcases hwaits _ _ _ _ hq hstage with hq | ⟨-, hawaits⟩
    · exact (hw.waiting hq hstage).evolves hevolves hw.numbered
    · exact hawaits

theorem start {settings : Settings} {site : Site} (hb : site.backend.Numbered saved) :
    Watchful saved ⟨site, { settings }⟩ where
  sound := .start site settings
  numbered := hb
  waiting hq := by simp at hq

theorem advances (hw : h.Watchful saved) (hr : h.service.receives.get? ticket = some r)
    (ha : Advances ticket r h answer h') : h'.Watchful saved := by
  have hevolves : Backend.Evolves (fun _ => False) h.site.backend _ h'.site.backend :=
    ha.evolves hw.sound hr
  exact hw.of_waitsAnew (hw.sound.advances hr ha) hevolves (ha.waitsAnew hw hr)

theorem enters (hw : h.Watchful saved) {queue group : String} {a : Nat × Except ServiceError Receive}
    (he : Enters queue group h a h') : h'.Watchful saved := by
  have hevolves : Backend.Evolves (fun _ => False) h.site.backend _ h'.site.backend := he.evolves
  refine hw.of_waitsAnew (hw.sound.enters he) hevolves ?_
  cases he with
  | refused => exact fun _ _ _ _ hq _ => .inl hq
  | entered =>
      intro j q n w hq hstage
      rw [Table.get?_insert] at hq
      split at hq
      · cases hq
        cases hstage
      · exact .inl hq

theorem polls (hw : h.Watchful saved) (ticket : Nat) : (poll ticket h).2.Watchful saved := by
  cases hr : h.service.receives.get? ticket with
  | none =>
      rw [poll_none hr]
      exact hw
  | some r =>
      rw [poll_some hr]
      exact hw.advances hr (advance_advances ticket r h)

theorem starts (hw : h.Watchful saved) (queue group : String) :
    (Host.start queue group h).2.Watchful saved := by
  have he := enter_enters queue group h
  rw [start_run]
  generalize enter queue group h = out at he ⊢
  rcases out with ⟨⟨ticket, e | r⟩, h₁⟩
  · exact hw.enters he
  · exact (hw.enters he).advances he.outstanding (advance_advances ticket r h₁)

theorem cancels (hw : h.Watchful saved) (ticket : Nat) : (cancel ticket h).2.Watchful saved := by
  obtain ⟨-, hrun⟩ | ⟨r, hr, hrun⟩ := cancel_cases ticket h
  · rw [hrun]
    exact hw
  · rw [hrun]
    have hstill : Backend.Evolves (fun _ => False) h.site.backend [] h.site.backend := .refl
    exact hw.of_waitsAnew (hw.sound.leave hr (.refl _)) hstill (waitsAnew_of_erase rfl)

theorem step (hw : h.Watchful saved) (e : Event) : (Host.step e h).2.Watchful saved := by
  cases he : e.attends with
  | false =>
      obtain ⟨sessions, hservice⟩ := step_service he h
      -- Nobody comes or goes on here, so whoever waits has waited before.
      refine hw.of_waitsAnew (hw.sound.step e) (step_evolves hw.sound e) fun j q n w hq _ => ?_
      rw [hservice] at hq
      exact .inl hq
  | true =>
      cases e with
      | start queue group => exact hw.starts queue group
      | poll ticket =>
          rw [step_poll]
          exact hw.polls ticket
      | cancel ticket => exact hw.cancels ticket
      | direct | condition => cases he
      | request r =>
          cases r with
          | receive queue group =>
              have hstart := hw.starts queue group
              change (receive queue group h).2.Watchful saved
              obtain hrun | hrun := receive_host queue group h
              · rw [hrun]
                exact hstart
              · rw [hrun]
                exact hstart.cancels _
          | _ => cases he

end Watchful

theorem steps_watchful (settings : Settings) {site : Site} (hb : site.backend.Numbered saved)
    (es : List Event) : (steps es ⟨site, { settings }⟩).2.Watchful saved :=
  steps_keep (fun e _ hw => hw.step e) es (.start hb)

/-- In the run no message is sent and no session is closed. -/
structure Quiet (later : List Event) (h : Host) : Prop where
  sent : ∀ queue payload, .sent queue payload ∉ chronicle happenings later h
  closed : ∀ session, .closing session (.ok ()) ∉ chronicle deeds later h ∧
    .direct (.close session) ∉ later

namespace Quiet

variable {e : Event} {later : List Event}

theorem rest (hq : Quiet (e :: later) h) : Quiet later (step e h).2 where
  sent queue payload hmem := hq.sent queue payload (List.mem_append_right _ hmem)
  closed session :=
    ⟨fun hmem => (hq.closed session).1 (List.mem_append_right _ hmem),
      fun hmem => (hq.closed session).2 (.tail _ hmem)⟩

theorem wakeups_step (hq : Quiet (e :: later) h) (hs : h.Sound) :
    (step e h).2.site.backend.transport.wakeups = h.site.backend.transport.wakeups := by
  refine (step_evolves hs e).wakeups_eq
    (fun queue payload hmem => hq.sent queue payload (List.mem_append_left _ hmem)) fun session => ?_
  rintro (hclosing | rfl)
  · apply (hq.closed session).1
    apply List.mem_append_left
    exact List.mem_append_right _ (List.mem_map.mpr ⟨_, hclosing, rfl⟩)
  · exact (hq.closed session).2 (.head _)

/-- A receive that has looked stays as it is until it is given up, however often it is polled. -/
theorem outstanding (hq : Quiet later h) (hs : h.Sound)
    (hr : h.service.receives.get? ticket = some r) {n w : Nat} (hstage : r.stage = .waiting n w)
    (hw : h.site.backend.transport.wakeups = w) (hcancel : .cancel ticket ∉ later) :
    (steps later h).2.service.receives.get? ticket = some r ∧
      (steps later h).2.site.backend.transport.wakeups = w := by
  induction later generalizing h with
  | nil => exact ⟨hr, hw⟩
  | cons e later ih =>
      have hnext : (step e h).2.service.receives.get? ticket = some r := by
        by_cases he : e = .poll ticket
        · rw [he, step_poll, poll_some hr, advance_waiting hstage, if_pos hw]
          exact hr
        · exact step_outstanding hs hr he fun he => hcancel (he ▸ .head _)
      exact ih hq.rest (hs.step e) hnext ((hq.wakeups_step hs).trans hw) fun hmem =>
        hcancel (.tail _ hmem)

end Quiet

/-- The receive that a step polls, with the answer and the host right after it. -/
def polled : Event → Host → Option (Nat × Poll Received × Host)
  | .poll ticket, h => (poll ticket h).1.map fun answer => (ticket, answer, (poll ticket h).2)
  | .start queue group, h | .request (.receive queue group), h =>
    some ((start queue group h).1.1, (start queue group h).1.2, (start queue group h).2)
  | _, _ => none

theorem polled_pending {e : Event} (hp : polled e h = some (ticket, .pending, h')) :
    ∃ h₁ r, (h₁ = h ∨ ∃ queue group, Enters queue group h (ticket, .ok r) h₁) ∧
      h₁.service.receives.get? ticket = some r ∧ Advances ticket r h₁ .pending h' := by
  -- A start is a poll of the receive that it has entered.
  have hstart {queue group : String} (hp : some ((start queue group h).1.1, (start queue group h).1.2,
      (start queue group h).2) = some (ticket, .pending, h')) :
      ∃ h₁ r, (h₁ = h ∨ ∃ queue group, Enters queue group h (ticket, .ok r) h₁) ∧
        h₁.service.receives.get? ticket = some r ∧ Advances ticket r h₁ .pending h' := by
    have he := enter_enters queue group h
    rw [start_run] at hp
    generalize enter queue group h = out at he hp
    rcases out with ⟨⟨i, e | r⟩, h₁⟩
    · cases hp
    · have ha := advance_advances i r h₁
      simp only [Option.some.injEq, Prod.mk.injEq] at hp
      obtain ⟨rfl, hanswer, rfl⟩ := hp
      rw [hanswer] at ha
      exact ⟨h₁, r, .inr ⟨queue, group, he⟩, he.outstanding, ha⟩
  cases e with
  | poll i =>
      cases hr : h.service.receives.get? i with
      | none =>
          rw [polled, poll_none hr] at hp
          cases hp
      | some r =>
          have ha := advance_advances i r h
          rw [polled, poll_some hr] at hp
          simp only [Option.map_some, Option.some.injEq, Prod.mk.injEq] at hp
          obtain ⟨rfl, hanswer, rfl⟩ := hp
          rw [hanswer] at ha
          exact ⟨h, r, .inl rfl, hr, ha⟩
  | start queue group => exact hstart hp
  | request req =>
      cases req with
      | receive queue group => exact hstart hp
      | _ => cases hp
  | cancel | direct | condition => cases hp

theorem Watchful.of_polled {e : Event} (hw : h.Watchful saved)
    (hp : polled e h = some (ticket, .pending, h')) :
    h'.Watchful saved ∧ ∀ {r n w}, h'.service.receives.get? ticket = some r → r.stage = .waiting n w →
      w = h'.site.backend.transport.wakeups := by
  obtain ⟨h₁, r, hfirst, hr, ha⟩ := polled_pending hp
  have hw₁ : h₁.Watchful saved := by
    obtain rfl | ⟨queue, group, he⟩ := hfirst
    · exact hw
    · exact hw.enters he
  exact ⟨hw₁.advances hr ha, ha.upToDate hr⟩

/-- Whatever is there for a receive that waits, its next poll is answered. -/
theorem answered_of_not_idle (hw : h.Watchful saved) (hr : h.service.receives.get? ticket = some r)
    {n w : Nat} (hstage : r.stage = .waiting n w)
    (hidle : ¬ h.site.backend.Idle n r.queue r.group) :
    ∃ answer h', poll ticket h = (some (.ready answer), h') := by
  have hwoken : h.site.backend.transport.wakeups ≠ w := fun he =>
    hidle ((hw.waiting hr hstage).idle he.symm)
  have hl := lookNow_looksNow ticket r n h
  rw [poll_some hr, advance_waiting hstage, if_neg hwoken]
  rcases hrun : lookNow ticket r n h with ⟨_ | answer, h'⟩
  · rw [hrun] at hl
    cases hl with
    | quiet s hs => exact absurd (hs.idle (hw.sound.waiting hr hstage)) hidle
  · exact ⟨answer, h', rfl⟩

/-- In every run from any saved state, with any failures: when a receive that has its session is polled
and has to wait, its session is open and its queue has no topic or no message for the group. Once
there is something for a receive, its next poll is answered. Until a message is sent or a session is
closed, a receive that has looked does not look again, however often it is polled. -/
theorem no_lost_wakeup (settings : Settings) (s : Snapshot) (clock : Int64) (site : Site)
    (es : List Event) :
    let start : Host := ⟨{ site with backend := s.restore clock }, { settings }⟩
    let h := (steps es start).2
    (∀ e ticket h' r n w, polled e h = some (ticket, .pending, h') →
      h'.service.receives.get? ticket = some r → r.stage = .waiting n w →
      h'.site.backend.Idle n r.queue r.group) ∧
    (∀ ticket r n w, h.service.receives.get? ticket = some r → r.stage = .waiting n w →
      ¬ h.site.backend.Idle n r.queue r.group →
      ∃ answer h', poll ticket h = (some (.ready answer), h')) ∧
    ∀ e ticket h' r n w later, polled e h = some (ticket, .pending, h') →
      h'.service.receives.get? ticket = some r → r.stage = .waiting n w → Quiet later h' →
      .cancel ticket ∉ later →
      poll ticket (steps later h').2 = (some .pending, (steps later h').2) := by
  intro start h
  have hw : h.Watchful s := steps_watchful settings (Backend.restore_numbered s clock) es
  refine ⟨fun e ticket h' r n w hp hr hstage => ?_, fun ticket r n w hr hstage =>
    answered_of_not_idle hw hr hstage, fun e ticket h' r n w later hp hr hstage hquiet hcancel => ?_⟩
  · obtain ⟨hw', hupToDate⟩ := hw.of_polled hp
    exact (hw'.waiting hr hstage).idle (hupToDate hr hstage)
  · obtain ⟨hw', hupToDate⟩ := hw.of_polled hp
    -- Quiet steps wake nobody, so the receive waits on at the count it last saw.
    obtain ⟨hlater, hwakeups⟩ :=
      hquiet.outstanding hw'.sound hr hstage (hupToDate hr hstage).symm hcancel
    rw [poll_some hlater, advance_waiting hstage, if_pos hwakeups]

/-- A message for the new topic reaches a receive that has waited since before the old one was deleted. -/
example :
    let before : List Event := [.request (.createQueue "q"), .start "q" "g", .request (.deleteQueue "q"),
      .request (.createQueue "q")]
    let h := (steps before ⟨{}, { settings := ⟨["broker"], "registry", 1, 1⟩ }⟩).2
    (poll 0 h).1 = some .pending ∧
      (poll 0 (step (.request (.send "q" "g" [111])) h).2).1 = some (.ready (.ok [111])) := by
  exact ⟨rfl, rfl⟩

end Host

end ManagedQueue
