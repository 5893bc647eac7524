import ManagedQueue.Proofs.Wakeups

namespace ManagedQueue

namespace Transport

variable {t u : Transport} {session : Nat} {queue group : String}

theorem Closed.extends (h : t.Closed session) (hext : t.Extends u) : u.Closed session := by
  obtain ⟨c, hc, hclosed⟩ := h
  obtain ⟨d, hd, -, -, hstill⟩ := hext session c hc
  exact ⟨d, hd, hstill hclosed⟩

theorem Reads.unclosed (h : t.Reads session queue group) (hopen : ¬ t.Closed session) :
    t.sessions[session]? = some ⟨queue, group, false⟩ := by
  obtain ⟨⟨q, g, closed⟩, hc, rfl, rfl⟩ := h
  cases closed with
  | false => exact hc
  | true => exact absurd ⟨_, hc, rfl⟩ hopen

theorem Reads.closed (h : t.Reads session queue group) (hclosed : t.Closed session) :
    t.sessions[session]? = some ⟨queue, group, true⟩ := by
  obtain ⟨c, hc, rfl, rfl⟩ := h
  obtain ⟨d, hd, hdclosed⟩ := hclosed
  obtain rfl : c = d := Option.some.inj (hc.symm.trans hd)
  rw [hc, ← hdclosed]

theorem Reads.closeSession (h : t.Reads session queue group) : (t.closeSession session).Closed session := by
  obtain ⟨c, hc, -, -⟩ := h
  exact ⟨{ c with closed := true }, by simp [Transport.closeSession, wake, hc], rfl⟩

end Transport

theorem Backend.Evolves.stays_open {closes : Nat → Prop} {b c : Backend} {D : List Happening} {session : Nat}
    {queue group : String} (h : Evolves closes b D c) (hext : b.transport.Extends c.transport)
    (hcloses : ¬ closes session) (hopened : b.transport.sessions[session]? = some ⟨queue, group, false⟩) :
    c.transport.sessions[session]? = some ⟨queue, group, false⟩ := by
  have hreads : b.transport.Reads session queue group := ⟨_, hopened, rfl, rfl⟩
  refine (hreads.extends hext).unclosed fun hclosed => ?_
  rcases h.closed_cases hclosed with ⟨s, hs, hsclosed⟩ | hmay
  · rw [hopened] at hs
    cases hs
    cases hsclosed
  · exact hcloses hmay

namespace Host

variable {h h' : Host} {ticket session : Nat} {r : Receive} {queue group : String}

abbrev Closed (h : Host) (session : Nat) : Prop := h.site.backend.transport.Closed session

/-- A session that is closed at the end of a run was closed before it, or by the service or past it
during the run. -/
theorem steps_closed (hs : h.Sound) (es : List Event) (hc : (steps es h).2.Closed session) :
    h.Closed session ∨ .closing session (.ok ()) ∈ chronicle deeds es h ∨ .direct (.close session) ∈ es := by
  induction es generalizing h with
  | nil => exact .inl hc
  | cons e es ih =>
      rcases ih (hs.step e) hc with hfirst | hclosing | hdirect
      · rcases (step_evolves hs e).closed_cases hfirst with hbefore | hclosing | rfl
        · exact .inl hbefore
        · exact .inr (.inl (List.mem_append_left _ (mem_deeds_closing.mpr hclosing)))
        · exact .inr (.inr (.head _))
      · exact .inr (.inl (List.mem_append_right _ hclosing))
      · exact .inr (.inr (.tail _ hdirect))

theorem closeNow_closed {s : Site} (hreads : s.backend.transport.Reads session queue group)
    (hok : (closeNow session s).1 = .ok ()) : (closeNow session s).2.backend.transport.Closed session := by
  obtain ⟨e, -, hr⟩ | ⟨-, hr⟩ := Site.closeNow_cases session s
  · rw [hr] at hok
    cases hok
  · rw [hr]
    exact hreads.closeSession

theorem closeEach_closed {entries : List (String × Nat)} {s : Site}
    (hreads : ∀ entry ∈ entries, ∃ queue group, s.backend.transport.Reads entry.2 queue group)
    (hn : (session, .ok ()) ∈ (entries.map (·.2)).zip ((closeEach entries s).1.map (·.2))) :
    (closeEach entries s).2.backend.transport.Closed session := by
  induction entries generalizing s with
  | nil => cases hn
  | cons entry rest ih =>
      have hfirst := (Site.closeNow_traffic entry.2 s).sessions
      have hrest := (Site.closeEach_traffic rest (closeNow entry.2 s).2).sessions
      change (session, .ok ()) ∈ (entry.2, (closeNow entry.2 s).1) ::
        (rest.map (·.2)).zip ((closeEach rest (closeNow entry.2 s).2).1.map (·.2)) at hn
      rcases List.mem_cons.mp hn with hnow | hlater
      · obtain ⟨rfl, hok⟩ := Prod.mk.inj hnow
        obtain ⟨queue, group, hr⟩ := hreads entry (.head _)
        exact (closeNow_closed hr hok.symm).extends hrest
      · refine ih (fun other hother => ?_) hlater
        obtain ⟨queue, group, hr⟩ := hreads other (.tail _ hother)
        exact ⟨queue, group, hr.extends hfirst⟩

theorem Sound.cached_reads (hs : h.Sound) {key : String} (hcached : h.service.sessions.get? key = some session) :
    ∃ queue group, h.site.backend.transport.Reads session queue group := by
  obtain ⟨queue, group, -, -, -, hr⟩ := hs.cached hcached
  exact ⟨queue, group, hr⟩

theorem closeSession_closed (hs : h.Sound) (hfree : h.service.lock.owner = none)
    (hcached : h.service.sessions.get? (sessionKey queue group) = some session)
    (hok : (closeNow session h.site).1 = .ok ()) : (closeSession queue group h).2.Closed session := by
  obtain ⟨q, g, hr⟩ := hs.cached_reads hcached
  have hclosed := closeNow_closed hr hok
  have hc := closeSession_closes queue group h
  generalize closeSession queue group h = out at hc ⊢
  rcases out with ⟨answer, h'⟩
  cases hc with
  | busy howner => exact absurd hfree howner
  | absent _ hnone =>
      rw [hcached] at hnone
      cases hnone
  | failed m e s _ hm hclose =>
      obtain rfl : session = m := Option.some.inj (hcached.symm.trans hm)
      rw [hclose] at hok
      cases hok
  | closed m s t _ hm hclose ht =>
      obtain rfl : session = m := Option.some.inj (hcached.symm.trans hm)
      rw [hclose] at hclosed
      exact hclosed.extends ht.sessions

theorem shutdown_closed (hs : h.Sound) (hfree : h.service.lock.owner = none)
    (hok : (session, .ok ()) ∈ (h.service.sessions.entries.map (·.2)).zip
      ((closeEach h.service.sessions.entries h.site).1.map (·.2))) : (shutdown h).2.Closed session := by
  have hclosed := closeEach_closed (fun entry hentry =>
    hs.cached_reads ((Table.get?_eq_some_iff _ entry.1 entry.2).mpr hentry)) hok
  have hd := shutdown_shutsDown h
  generalize shutdown h = out at hd ⊢
  rcases out with ⟨answer, h'⟩
  cases hd with
  | busy howner => exact absurd hfree howner
  | done answers s t _ hclose ht =>
      rw [hclose] at hclosed
      exact hclosed.extends ht.sessions

theorem closings_closed (hs : h.Sound) {e : Event} (hn : (session, .ok ()) ∈ closings e h) :
    (step e h).2.Closed session := by
  unfold closings at hn
  split at hn
  · split at hn
    · cases hn
    · next hfree =>
      split at hn
      · cases hn
      · next n hcached =>
        obtain ⟨rfl, hok⟩ := Prod.mk.inj (List.mem_singleton.mp hn)
        exact closeSession_closed hs (by simpa using hfree) hcached hok.symm
  · split at hn
    · cases hn
    · next hfree => exact shutdown_closed hs (by simpa using hfree) hn
  · cases hn

def Waits (h : Host) (ticket : Nat) (queue group : String) (session : Nat) : Prop :=
  ∃ r wakeups, h.service.receives.get? ticket = some r ∧ r.queue = queue ∧ r.group = group ∧
    r.stage = .waiting session wakeups

/-- Some receive waits on the session for a message of the group. -/
def WaitsOn (h : Host) (queue group : String) (session : Nat) : Prop :=
  ∃ ticket, h.Waits ticket queue group session

/-- The receive goes for its session in this step, and that is the one it obtains. -/
def Obtains (e : Event) (h : Host) (ticket : Nat) (queue group : String) (session : Nat) : Prop :=
  (∃ r h₁, claimant e h = some (ticket, r, h₁)) ∧ .obtained queue group session ∈ deeds e h

theorem Settles.waits {n : Nat} {before after : Table Nat Receive} (hs : Settles ticket r n before after)
    {j w : Nat} {q : Receive} (hq : after.get? j = some q) (hstage : q.stage = .waiting session w) :
    before.get? j = some q ∨ j = ticket ∧ q.queue = r.queue ∧ q.group = r.group ∧ session = n := by
  by_cases hj : j = ticket
  · subst hj
    cases hs with
    | ended => simp at hq
    | waiting wakeups =>
        rw [Table.get?_insert_self] at hq
        cases hq
        cases hstage
        exact .inr ⟨rfl, rfl, rfl, rfl⟩
  · exact .inl (hs.departs.others hj ▸ hq)

theorem advance_waits {j : Nat} (hr : h.service.receives.get? ticket = some r)
    (hw : (advance ticket r h).2.Waits j queue group session) :
    h.Waits j queue group session ∨
      j = ticket ∧ (∀ n w, r.stage ≠ .waiting n w) ∧ r.queue = queue ∧ r.group = group ∧
        ((acquire ticket r h).1 = .found session ∨ (acquire ticket r h).1 = .opened session) := by
  obtain ⟨q, w, hq, rfl, rfl, hstage⟩ := hw
  -- A receive that already waits keeps its session. Any other can come to wait only on what it acquires.
  by_cases hwaits : ∃ n v, r.stage = .waiting n v
  · obtain ⟨n, v, hown⟩ := hwaits
    left
    have ha := advance_advances ticket r h
    generalize advance ticket r h = out at ha hq
    rcases out with ⟨answer, h'⟩
    cases ha with
    | idle => exact ⟨q, w, hq, rfl, rfl, hstage⟩
    | woken m u _ _ hown' _ hl =>
        obtain ⟨receives, hservice, hsettles⟩ := hl.settles
        dsimp only at hq
        rw [hservice] at hq
        rcases hsettles.waits hq hstage with hq | ⟨rfl, hqueue, hgroup, rfl⟩
        · exact ⟨q, w, hq, rfl, rfl, hstage⟩
        · exact ⟨r, u, hr, hqueue.symm, hgroup.symm, hown'⟩
    | waits _ hnot | served _ _ _ _ _ hnot | refused _ _ hnot => exact absurd hown (hnot _ _)
  · have hnot : ∀ n v, r.stage ≠ .waiting n v := fun n v hown => hwaits ⟨n, v, hown⟩
    have hlistens (n : Nat) (h' : Host) (hq : (listen ticket r n h').2.service.receives.get? j = some q) :
        h'.service.receives.get? j = some q ∨
          j = ticket ∧ q.queue = r.queue ∧ q.group = r.group ∧ session = n := by
      obtain ⟨receives, hservice, hsettles⟩ := (listen_listens ticket r n h').settles
      rw [hservice] at hq
      exact hsettles.waits hq hstage
    have ha := acquire_acquires ticket r h
    rw [advance_run ticket r h hnot] at hq
    generalize acquire ticket r h = out at ha hq ⊢
    rcases out with ⟨_ | n | n | e, h'⟩
    · exact .inl ⟨q, w, ha.waiting hq hstage, rfl, rfl, hstage⟩
    · rcases hlistens n h' hq with hq | ⟨hj, hqueue, hgroup, rfl⟩
      · exact .inl ⟨q, w, ha.waiting hq hstage, rfl, rfl, hstage⟩
      · exact .inr ⟨hj, hnot, hqueue.symm, hgroup.symm, .inl rfl⟩
    · rcases hlistens n h' hq with hq | ⟨hj, hqueue, hgroup, rfl⟩
      · exact .inl ⟨q, w, ha.waiting hq hstage, rfl, rfl, hstage⟩
      · exact .inr ⟨hj, hnot, hqueue.symm, hgroup.symm, .inr rfl⟩
    · dsimp only at hq
      rw [Table.get?_erase] at hq
      split at hq
      · cases hq
      · exact .inl ⟨q, w, ha.waiting hq hstage, rfl, rfl, hstage⟩

theorem Enters.waits {a : Nat × Except ServiceError Receive} {q g : String} {j : Nat} (he : Enters q g h a h')
    (hw : h'.Waits j queue group session) : h.Waits j queue group session := by
  obtain ⟨r, w, hr, rfl, rfl, hstage⟩ := hw
  cases he with
  | refused => exact ⟨r, w, hr, rfl, rfl, hstage⟩
  | entered =>
      rw [Table.get?_insert] at hr
      split at hr
      · cases hr
        cases hstage
      · exact ⟨r, w, hr, rfl, rfl, hstage⟩

theorem obtains_of_claimant {e : Event} {h₁ : Host} (hc : claimant e h = some (ticket, r, h₁))
    (hn : (acquire ticket r h₁).1 = .found session ∨ (acquire ticket r h₁).1 = .opened session) :
    Obtains e h ticket r.queue r.group session := by
  refine ⟨⟨r, h₁, hc⟩, ?_⟩
  rw [deeds_eq, acquisition_of_claimant hc]
  rcases hn with hn | hn <;> simp [acquired, hn]

theorem start_waits {e : Event} {q g : String} {j : Nat}
    (hevent : e = .start q g ∨ e = .request (.receive q g))
    (hw : (start q g h).2.Waits j queue group session) :
    h.Waits j queue group session ∨ Obtains e h j queue group session := by
  have he := enter_enters q g h
  rw [start_run] at hw
  rcases henter : enter q g h with ⟨⟨ticket, error | r⟩, h₁⟩
  · rw [henter] at he hw
    exact .inl (he.waits hw)
  · rw [henter] at he hw
    rcases advance_waits he.outstanding hw with hw | ⟨rfl, -, rfl, rfl, hn⟩
    · exact .inl (he.waits hw)
    · have hc : claimant e h = some (j, r, h₁) := by
        rcases hevent with rfl | rfl <;> simp [claimant, henter]
      exact .inr (obtains_of_claimant hc hn)

theorem cancel_waits {j : Nat} (hw : (cancel ticket h).2.Waits j queue group session) :
    h.Waits j queue group session := by
  obtain ⟨r, w, hr, hqueue, hgroup, hstage⟩ := hw
  rw [cancel_outstanding] at hr
  split at hr
  · cases hr
  · exact ⟨r, w, hr, hqueue, hgroup, hstage⟩

/-- Who waits on a session after a step did so before, or obtains it in the step. -/
theorem step_waits (e : Event) {j : Nat} (hw : (step e h).2.Waits j queue group session) :
    h.Waits j queue group session ∨ Obtains e h j queue group session := by
  cases he : e.attends with
  | false =>
      obtain ⟨sessions, hservice⟩ := step_service he h
      obtain ⟨r, w, hr, hrest⟩ := hw
      rw [hservice] at hr
      exact .inl ⟨r, w, hr, hrest⟩
  | true =>
      cases e with
      | start q g => exact start_waits (.inl rfl) hw
      | cancel i => exact .inl (cancel_waits hw)
      | poll i =>
          rw [step_poll] at hw
          cases hr : h.service.receives.get? i with
          | none =>
              rw [poll_none hr] at hw
              exact .inl hw
          | some r =>
              rw [poll_some hr] at hw
              rcases advance_waits hr hw with hw | ⟨rfl, hstage, rfl, rfl, hn⟩
              · exact .inl hw
              · exact .inr (obtains_of_claimant (claimant_poll hr hstage) hn)
      | direct | condition => cases he
      | request r =>
          cases r with
          | receive q g =>
              change (receive q g h).2.Waits j queue group session at hw
              obtain hrun | hrun := receive_host q g h
              · rw [hrun] at hw
                exact start_waits (.inr rfl) hw
              · rw [hrun] at hw
                exact start_waits (.inr rfl) (cancel_waits hw)
          | _ => cases he

theorem Handles.cached_of_obtained {count : Nat} {before after : NameMap Nat} {D : List Deed}
    (hD : Handles count before after D) (hmem : .obtained queue group session ∈ D) :
    after.get? (sessionKey queue group) = some session := by
  cases hD with
  | kept | dropped => simp at hmem
  | found q g n _ _ hn hafter =>
      obtain ⟨rfl, rfl, rfl⟩ : queue = q ∧ group = g ∧ session = n := by simpa using hmem
      rw [hafter, hn]
  | opened q g _ _ _ hafter =>
      obtain ⟨rfl, rfl, rfl⟩ : queue = q ∧ group = g ∧ session = count := by simpa using hmem
      rw [hafter, Table.get?_insert_self]

/-- Every session that a receive waits on is in the table or closed. -/
def Attached (h : Host) : Prop := ∀ queue group session, h.WaitsOn queue group session →
  h.service.sessions.get? (sessionKey queue group) = some session ∨ h.Closed session

theorem Attached.step (ha : h.Attached) (hs : h.Sound) {e : Event}
    (hnone : ∀ n error, .closing n (.error error) ∉ deeds e h) : (step e h).2.Attached := by
  intro queue group session hw
  obtain ⟨ticket, hw⟩ := hw
  rcases step_waits e hw with hbefore | ⟨-, hobtained⟩
  · rcases ha queue group session ⟨ticket, hbefore⟩ with hcached | hclosed
    · rcases (step_handles hs e).lost hcached with hstill | ⟨answer, hc⟩
      · exact .inl hstill
      · cases answer with
        | ok => exact .inr (closings_closed hs (mem_deeds_closing.mp hc))
        | error error => exact absurd hc (hnone session error)
    · exact .inr (hclosed.extends (step_extends e h))
  · exact .inl ((step_handles hs e).cached_of_obtained hobtained)

theorem steps_attached (settings : Settings) (site : Site) (es : List Event)
    (hnone : ∀ n error, .closing n (.error error) ∉ chronicle deeds es ⟨site, { settings }⟩) :
    (steps es ⟨site, { settings }⟩).2.Attached := by
  have hrun := chronicle_keep (f := deeds)
    (P := fun H h => h.Sound ∧ ((∀ n error, .closing n (.error error) ∉ H) → h.Attached))
    (fun H h e hP => ⟨hP.1.step e, fun hH => ?_⟩) es (H := []) ⟨.start site settings, fun _ => ?_⟩
  · exact hrun.2 hnone
  · have hbefore : h.Attached := hP.2 fun n error hmem => hH n error (List.mem_append_left _ hmem)
    exact hbefore.step hP.1 fun n error hmem => hH n error (List.mem_append_right _ hmem)
  · rintro queue group session ⟨j, r, w, hr, -⟩
    cases hr

end Host

end ManagedQueue
