import ManagedQueue.Proofs.LocalOperations

namespace ManagedQueue

namespace Lock

theorem leave_ask {l : Lock} (hfree : l.owner = none) (hline : l.line = []) (ticket : Nat) :
    (l.ask ticket).leave ticket = l := by
  obtain ⟨owner, line⟩ := l
  cases hfree
  cases hline
  simp [ask, leave, handOn]

end Lock

namespace Site

def lookAt : Option Session → Task (Except CollaboratorError (Option Payload))
  | none => return .error ⟨.closed, ""⟩
  | some c =>
    if c.closed then return .error ⟨.closed, sessionKey c.queue c.group⟩
    else onLog c.queue (·.take c.queue c.group)

theorem look_run (session : Nat) (s : Site) :
    look session s = lookAt s.backend.transport.sessions[session]? s := by
  unfold look
  rw [bind_apply, get_apply]
  cases s.backend.transport.sessions[session]? with
  | none => rfl
  | some c =>
      unfold lookAt
      dsimp only
      split <;> rfl

theorem lookAt_local {queue : String} {c : Option Session} (hc : ∀ d, c = some d → d.queue = queue) :
    Task.Local true queue (lookAt c) := by
  cases c with
  | none => exact .pure _
  | some c =>
      obtain rfl := hc c rfl
      unfold lookAt
      dsimp only
      split
      · exact .pure _
      · exact take_local c.queue c.group

end Site

namespace Host

open Operation

def hear (queue group : String) (c : Option Session) : Task (Poll Received) := do
  match ← Site.lookAt c with
  | .error e => return .ready (.error (failed ⟨queue, group, .inLine⟩ e))
  | .ok none => return .pending
  | .ok (some payload) =>
    Site.record .receive queue group 1
    Site.note .debug .gateway s!"received {payload.length} bytes from {sessionKey queue group}"
    return .ready (.ok payload)

theorem hear_local {queue group : String} {c : Option Session} (hc : ∀ d, c = some d → d.queue = queue) :
    Task.Local true queue (hear queue group c) := by
  refine .bind (Site.lookAt_local hc) fun answer => ?_
  rcases answer with e | none | payload
  · exact .pure _
  · exact .pure _
  · exact .bind (Site.record_local .receive queue group 1) fun _ => .bind (.note _ _ _) fun _ => .pure _

def passGate (brokers : List String) (queue group : String) : Task (Poll (Except ServiceError (Option Session))) := do
  if (← get).gateShut then return .pending
  else match ← Site.opening brokers queue group with
    | .error e => return .ready (.error (failed ⟨queue, group, .inLine⟩ e))
    | .ok () => return .ready (.ok (some ⟨queue, group, false⟩))

/-- How a receive comes by its session: it has the one in the table, or opens one. -/
def reach (brokers : List String) (queue group : String) (held : Option (Option Session)) :
    Task (Poll (Except ServiceError (Option Session))) := do
  match ← checkReceive queue group with
  | .error e => return .ready (.error e)
  | .ok () =>
    match held with
    | some c => return .ready (.ok c)
    | none => passGate brokers queue group

theorem gate_local (queue : String) {α : Type} {x y : Task α} (hx : x.Local true queue)
    (hy : y.Local true queue) : Task.Local true queue (do if (← get).gateShut then x else y) := by
  have hrun (s : Site) : (do if (← get).gateShut then x else y : Task α) s = if s.gateShut then x s else y s := by
    rw [bind_apply, get_apply]
    split <;> rfl
  refine ⟨fun {s t} h => ?_, fun hother s hs hb => ?_, fun s => ?_⟩
  · rw [hrun, hrun, h.gateShut]
    split
    · exact hx.reads h
    · exact hy.reads h
  · rw [hrun]
    split
    · exact hx.apart hother hs hb
    · exact hy.apart hother hs hb
  · rw [hrun]
    split
    · exact hx.sessions s
    · exact hy.sessions s

theorem passGate_local (brokers : List String) (queue group : String) :
    Task.Local true queue (passGate brokers queue group) := by
  refine gate_local queue (.pure _) (.bind (Site.opening_local brokers queue group) fun answer => ?_)
  rcases answer with e | ⟨⟩ <;> exact .pure _

theorem reach_local (brokers : List String) (queue group : String) (held : Option (Option Session)) :
    Task.Local true queue (reach brokers queue group held) := by
  refine .bind (checkReceive_local queue group) fun answer => ?_
  rcases answer with e | ⟨⟩
  · exact .pure _
  · cases held with
    | some c => exact .pure _
    | none => exact passGate_local brokers queue group

theorem passGate_run (brokers : List String) (queue group : String) (s : Site) : passGate brokers queue group s =
    if s.gateShut then (.pending, s)
    else match Site.openSession brokers queue group s with
      | (.error e, t) => (.ready (.error (failed ⟨queue, group, .inLine⟩ e)), t)
      | (.ok _, t) => (.ready (.ok (some ⟨queue, group, false⟩)), t) := by
  unfold passGate Site.opening
  rw [bind_apply, get_apply]
  dsimp only
  split
  · rfl
  · rw [bind_apply, bind_apply]
    rcases Site.openSession brokers queue group s with ⟨e | n, t⟩ <;> rfl

section Stages

variable {queue group : String} {ticket session : Nat} {r : Receive} {h : Host}

/-- The host has come to this site and these sessions, and the lock is free. -/
structure Left (h : Host) (s : Site) (sessions : NameMap Nat) (h' : Host) : Prop where
  site : h'.site = s
  sessions : h'.service.sessions = sessions
  settings : h'.service.settings = h.service.settings
  free : h'.service.lock.owner = none

theorem lookNow_hear (ticket : Nat) (r : Receive) (session : Nat) (h : Host) : ∃ receives,
    lookNow ticket r session h =
      ((hear r.queue r.group h.site.backend.transport.sessions[session]? h.site).1,
        ⟨(hear r.queue r.group h.site.backend.transport.sessions[session]? h.site).2,
          { h.service with receives }⟩) := by
  unfold lookNow hear
  rw [bind_apply, onSite_apply, Site.look_run, bind_apply]
  rcases Site.lookAt h.site.backend.transport.sessions[session]? h.site with ⟨e | none | payload, s⟩ <;>
    exact ⟨_, rfl⟩

theorem listen_hear (hs : h.site.Unfailing) (ticket : Nat) (r : Receive) (session : Nat) : ∃ receives,
    listen ticket r session h =
      ((hear r.queue r.group h.site.backend.transport.sessions[session]? h.site).1,
        ⟨(hear r.queue r.group h.site.backend.transport.sessions[session]? h.site).2,
          { h.service with receives }⟩) := by
  have hplanned : planned .receive h.site = (none, h.site) := by
    unfold planned
    rw [bind_apply, get_apply, hs .receive]
    rfl
  obtain ⟨receives, hrun⟩ := lookNow_hear ticket r session h
  refine ⟨receives, ?_⟩
  unfold listen
  rw [bind_apply, onSite_apply, hplanned]
  exact hrun

theorem tryOpen_run (hs : h.site.Unfailing) (ticket : Nat) (r : Receive) : ∃ journal, tryOpen ticket r h =
    if h.site.gateShut then (.waits, ⟨h.site, { h.service with
      receives := h.service.receives.insert ticket { r with stage := .opening } }⟩)
    else match Site.openSession h.service.settings.brokers r.queue r.group h.site with
      | (.error e, s) => (.refused e, ⟨s, { h.service with lock := h.service.lock.leave ticket }⟩)
      | (.ok n, s) => (.opened n, ⟨{ s with journal }, { h.service with
          sessions := h.service.sessions.insert (sessionKey r.queue r.group) n
          lock := h.service.lock.leave ticket }⟩) := by
  unfold tryOpen
  rw [bind_apply, get_apply]
  dsimp only
  split
  · exact ⟨[], rfl⟩
  · unfold openNow
    rw [bind_apply, get_apply, bind_apply, onSite_apply, attempt_unfailing hs]
    dsimp only
    rcases Site.openSession h.service.settings.brokers r.queue r.group h.site with ⟨e | n, s⟩
    · exact ⟨[], rfl⟩
    · exact ⟨_, rfl⟩

theorem acquire_run (hstage : r.stage ≠ .opening) (howner : h.service.lock.owner = some ticket) :
    acquire ticket r h = match h.service.sessions.get? (sessionKey r.queue r.group) with
      | some n => (.found n, ⟨h.site, { h.service with lock := h.service.lock.leave ticket }⟩)
      | none => tryOpen ticket r h := by
  unfold acquire
  rw [if_neg hstage, bind_apply, get_apply]
  dsimp only
  rw [if_pos howner, bind_apply, get_apply]
  dsimp only
  cases h.service.sessions.get? (sessionKey r.queue r.group) <;> rfl

section Advance

variable (hstage : r.stage = .inLine) (howner : h.service.lock.owner = some ticket)

include hstage howner

theorem advance_found (hs : h.site.Unfailing)
    (hn : h.service.sessions.get? (sessionKey r.queue r.group) = some session) : ∃ receives,
    advance ticket r h = ((hear r.queue r.group h.site.backend.transport.sessions[session]? h.site).1,
      ⟨(hear r.queue r.group h.site.backend.transport.sessions[session]? h.site).2,
        { h.service with receives, lock := h.service.lock.leave ticket }⟩) := by
  obtain ⟨receives, hrun⟩ := listen_hear
    (h := ⟨h.site, { h.service with lock := h.service.lock.leave ticket }⟩) hs ticket r session
  refine ⟨receives, ?_⟩
  rw [advance_run ticket r h (by simp [hstage]), acquire_run (by simp [hstage]) howner, hn]
  exact hrun

variable (hn : h.service.sessions.get? (sessionKey r.queue r.group) = none)

include hn

theorem advance_shut (hs : h.site.Unfailing) (hgate : h.site.gateShut = true) :
    advance ticket r h = (.pending, ⟨h.site, { h.service with
      receives := h.service.receives.insert ticket { r with stage := .opening } }⟩) := by
  obtain ⟨journal, hrun⟩ := tryOpen_run hs ticket r
  rw [if_pos hgate] at hrun
  rw [advance_run ticket r h (by simp [hstage]), acquire_run (by simp [hstage]) howner, hn]
  dsimp only
  rw [hrun]

theorem advance_refused (hs : h.site.Unfailing) (hgate : h.site.gateShut = false) {e : CollaboratorError}
    {s : Site} (hopen : Site.openSession h.service.settings.brokers r.queue r.group h.site = (.error e, s)) :
    advance ticket r h = (.ready (.error (failed r e)), ⟨s, { h.service with
      receives := h.service.receives.erase ticket, lock := h.service.lock.leave ticket }⟩) := by
  obtain ⟨journal, hrun⟩ := tryOpen_run hs ticket r
  rw [if_neg (by simp [hgate]), hopen] at hrun
  rw [advance_run ticket r h (by simp [hstage]), acquire_run (by simp [hstage]) howner, hn]
  dsimp only
  rw [hrun]

theorem advance_opened (hs : h.site.Unfailing) (hgate : h.site.gateShut = false) {s : Site}
    (hopen : Site.openSession h.service.settings.brokers r.queue r.group h.site = (.ok session, s))
    (hlater : s.Unfailing) : ∃ journal receives, advance ticket r h =
      ((hear r.queue r.group s.backend.transport.sessions[session]? { s with journal }).1,
        ⟨(hear r.queue r.group s.backend.transport.sessions[session]? { s with journal }).2,
          { h.service with
            receives
            sessions := h.service.sessions.insert (sessionKey r.queue r.group) session
            lock := h.service.lock.leave ticket }⟩) := by
  obtain ⟨journal, hrun⟩ := tryOpen_run hs ticket r
  rw [if_neg (by simp [hgate]), hopen] at hrun
  obtain ⟨receives, hlisten⟩ := listen_hear (h := ⟨{ s with journal }, { h.service with
    sessions := h.service.sessions.insert (sessionKey r.queue r.group) session
    lock := h.service.lock.leave ticket }⟩) hlater ticket r session
  refine ⟨journal, receives, ?_⟩
  rw [advance_run ticket r h (by simp [hstage]), acquire_run (by simp [hstage]) howner, hn]
  dsimp only
  rw [hrun]
  exact hlisten

end Advance

theorem Left.cancel {s : Site} {sessions : NameMap Nat} {h' : Host} (hl : h.Left s sessions h')
    (ticket : Nat) : h.Left s sessions (cancel ticket h').2 := by
  obtain ⟨-, hrun⟩ | ⟨r, -, hrun⟩ := cancel_cases ticket h'
  · rw [hrun]
    exact hl
  · rw [hrun]
    refine ⟨hl.site, hl.sessions, hl.settings, ?_⟩
    change (h'.service.lock.leave ticket).owner = none
    rw [Lock.owner_leave, hl.free]
    rfl

theorem receive_left {s : Site} {sessions : NameMap Nat} {answer : Poll Received} {h' : Host}
    (hstart : start queue group h = ((ticket, answer), h')) (hl : h.Left s sessions h') :
    (receive queue group h).1 = answer ∧ h.Left s sessions (receive queue group h).2 := by
  rw [receive_run, hstart]
  cases answer with
  | pending => exact ⟨rfl, hl.cancel ticket⟩
  | ready answer => exact ⟨rfl, hl⟩

end Stages

def held (h : Host) (queue group : String) : Option (Option Session) :=
  (h.service.sessions.get? (sessionKey queue group)).map (h.site.backend.transport.sessions[·]?)

/-- What comes of a receive that finds the lock free, from how it comes by its session. -/
inductive Served (queue group : String) (h : Host) :
    Poll (Except ServiceError (Option Session)) × Site → Poll Received × Host → Prop
  | refused (e s h') (hl : h.Left s h.service.sessions h') :
      Served queue group h (.ready (.error e), s) (.ready (.error e), h')
  | shut (s h') (hl : h.Left s h.service.sessions h') : Served queue group h (.pending, s) (.pending, h')
  | heard (c s journal h')
      (hl : h.Left (hear queue group c { s with journal }).2
        (h.service.sessions.insert (sessionKey queue group)
          ((h.service.sessions.get? (sessionKey queue group)).getD
            h.site.backend.transport.sessions.length)) h') :
      Served queue group h (.ready (.ok c), s) ((hear queue group c { s with journal }).1, h')

theorem Served.of_left {queue group : String} {h : Host} {s : Site} {sessions : NameMap Nat}
    {reached : Poll (Except ServiceError (Option Session)) × Site} {out : Poll Received × Host}
    {answer : Poll Received} (hout : out.1 = answer ∧ h.Left s sessions out.2)
    (hserved : ∀ h', h.Left s sessions h' → Served queue group h reached (answer, h')) :
    Served queue group h reached out := by
  obtain ⟨a, k⟩ := out
  obtain ⟨rfl, hl⟩ := hout
  exact hserved k hl

theorem opened_session {brokers : List String} {queue group : String} {s t : Site} {n : Nat}
    (hopen : Site.openSession brokers queue group s = (.ok n, t)) :
    n = s.backend.transport.sessions.length ∧
      t.backend.transport.sessions[n]? = some ⟨queue, group, false⟩ := by
  obtain ⟨journal, hrun⟩ := Site.openSession_run brokers queue group s
  rw [hopen] at hrun
  split at hrun
  · cases hrun
  · cases hi : s.backend.registry.incarnation? queue with
    | none =>
        rw [hi] at hrun
        cases hrun
    | some i =>
        rw [hi] at hrun
        cases hrun
        exact ⟨rfl, List.getElem?_concat_length⟩

def entered (h : Host) (s : Site) (queue group : String) : Host := ⟨s, { h.service with
  nextTicket := h.service.nextTicket + 1
  receives := h.service.receives.insert h.service.nextTicket ⟨queue, group, .inLine⟩
  lock := h.service.lock.ask h.service.nextTicket }⟩

section Entered

variable {queue group : String} {h : Host} {s : Site} (hsound : h.Sound) (hfree : h.service.lock.owner = none)
  (hcheck : checkReceive queue group h.site = (.ok (), s))

include hfree in
theorem owner_entered (s : Site) (queue group : String) :
    (h.entered s queue group).service.lock.owner = some h.service.nextTicket := by
  change (h.service.lock.ask _).owner = _
  unfold Lock.ask
  rw [hfree]

include hsound hfree in
theorem owner_left : ((h.service.lock.ask h.service.nextTicket).leave h.service.nextTicket).owner = none := by
  rw [Lock.leave_ask hfree (hsound.service.orderly.free hfree), hfree]

include hcheck

theorem start_entered : start queue group h =
    ((h.service.nextTicket, (advance h.service.nextTicket ⟨queue, group, .inLine⟩ (h.entered s queue group)).1),
      (advance h.service.nextTicket ⟨queue, group, .inLine⟩ (h.entered s queue group)).2) := by
  rw [start_run, enter_run, hcheck]
  rfl

include hsound hfree

theorem receive_shut {r : Receive} (hadvance :
      advance h.service.nextTicket ⟨queue, group, .inLine⟩ (h.entered s queue group) =
        (.pending, ⟨s, { (h.entered s queue group).service with
          receives := (h.entered s queue group).service.receives.insert h.service.nextTicket r }⟩)) :
    (receive queue group h).1 = .pending ∧ h.Left s h.service.sessions (receive queue group h).2 := by
  rw [receive_run, start_entered hcheck, hadvance]
  refine ⟨rfl, ?_⟩
  dsimp only
  -- The receive is outstanding, so giving it up leaves the lock.
  obtain ⟨hnone, -⟩ | ⟨q, -, hrun⟩ := cancel_cases h.service.nextTicket ⟨s, {
      (h.entered s queue group).service with
      receives := (h.entered s queue group).service.receives.insert h.service.nextTicket r }⟩
  · rw [Table.get?_insert_self] at hnone
    cases hnone
  · rw [hrun]
    exact ⟨rfl, rfl, rfl, owner_left hsound hfree⟩

variable (hs : s.Unfailing)

include hs

theorem receive_found {n : Nat} (hn : h.service.sessions.get? (sessionKey queue group) = some n) :
    Served queue group h (.ready (.ok s.backend.transport.sessions[n]?), s) (receive queue group h) := by
  obtain ⟨receives, hadvance⟩ :=
    advance_found (r := ⟨queue, group, .inLine⟩) rfl (owner_entered hfree s queue group) hs hn
  have hstart := start_entered hcheck
  rw [hadvance] at hstart
  have hleft := receive_left hstart ⟨rfl, rfl, rfl, owner_left hsound hfree⟩
  refine Served.of_left hleft fun k hl => .heard _ s s.journal k ?_
  rw [hn, Option.getD_some, Table.insert_of_get? hn]
  exact hl

theorem receive_passed (hb : s.backend.Counted)
    (hn : h.service.sessions.get? (sessionKey queue group) = none) :
    Served queue group h (passGate h.service.settings.brokers queue group s) (receive queue group h) := by
  have hstart := start_entered hcheck
  have howner := owner_left hsound hfree
  have hentered := owner_entered hfree s queue group
  have hlater := ((passGate_local h.service.settings.brokers queue group).reads (Site.Same.refl hs hb)).2.unfailing
  rw [passGate_run] at hlater ⊢
  cases hgate : s.gateShut with
  | true =>
      have hadvance := advance_shut (r := ⟨queue, group, .inLine⟩) rfl hentered hn hs hgate
      exact Served.of_left (receive_shut hsound hfree hcheck hadvance) fun k hl => .shut s k hl
  | false =>
      rw [hgate] at hlater
      rcases hopen : Site.openSession h.service.settings.brokers queue group s with ⟨e | n, t⟩
      · have hadvance := advance_refused (r := ⟨queue, group, .inLine⟩) rfl hentered hn hs hgate hopen
        rw [hadvance] at hstart
        exact Served.of_left (receive_left hstart ⟨rfl, rfl, rfl, howner⟩) fun k hl => .refused _ t k hl
      · rw [hopen] at hlater
        obtain ⟨hnumber, hsession⟩ := opened_session hopen
        obtain ⟨journal, receives, hadvance⟩ :=
          advance_opened (r := ⟨queue, group, .inLine⟩) rfl hentered hn hs hgate hopen hlater
        rw [hadvance, hsession] at hstart
        -- The checks leave the transport alone, so the new session has the number the host at rest would give.
        have htransport : s.backend.transport = h.site.backend.transport := by
          have hglance := (checkReceive_glances queue group h.site).transport
          rwa [hcheck] at hglance
        have hleft := receive_left hstart ⟨rfl, rfl, rfl, howner⟩
        refine Served.of_left hleft fun k hl => .heard _ t journal k ?_
        rw [hn, Option.getD_none, ← htransport, ← hnumber]
        exact hl

end Entered

theorem receive_served {h : Host} (hsound : h.Sound) (hfree : h.service.lock.owner = none)
    (hs : h.site.Unfailing) (hb : h.site.backend.Counted) (queue group : String) :
    Served queue group h (reach h.service.settings.brokers queue group (h.held queue group) h.site)
      (receive queue group h) := by
  have hchecked := (checkReceive_local queue group).reads (Site.Same.refl hs hb)
  have htransport := (checkReceive_glances queue group h.site).transport
  unfold reach held
  rw [bind_apply]
  rcases hcheck : checkReceive queue group h.site with ⟨e | ⟨⟩, s⟩
  · have hstart := start_run queue group h
    rw [enter_run, hcheck] at hstart
    exact Served.of_left (receive_left hstart ⟨rfl, rfl, rfl, hfree⟩) fun _ hl => .refused e s _ hl
  · rw [hcheck] at hchecked htransport
    cases hn : h.service.sessions.get? (sessionKey queue group) with
    | some n =>
        have hserved := receive_found hsound hfree hcheck hchecked.2.unfailing hn
        rw [htransport] at hserved
        exact hserved
    | none => exact receive_passed hsound hfree hcheck hchecked.2.unfailing hchecked.2.backend.counted hn

end Host

end ManagedQueue
