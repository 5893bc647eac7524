import ManagedQueue.Proofs.FreshSessions

namespace ManagedQueue

namespace Host

open Site

variable {saved : Snapshot} {h k : Host} {ticket session : Nat} {r : Receive} {queue group : String}

theorem lookNow_closed
    (hclosed : h.site.backend.transport.sessions[session]? = some ⟨r.queue, r.group, true⟩) :
    lookNow ticket r session h = (.ready (.error (failed r ⟨.closed, sessionKey r.queue r.group⟩)),
      ⟨h.site, { h.service with receives := h.service.receives.erase ticket }⟩) := by
  have hlook : look session h.site = (.error ⟨.closed, sessionKey r.queue r.group⟩, h.site) := by
    have hl := look_looks session h.site
    generalize look session h.site = out at hl ⊢
    rcases out with ⟨answer, s⟩
    cases hl with
    | closed c hc =>
        rw [hclosed] at hc
        cases hc
        rfl
    | unknown hc =>
        rw [hclosed] at hc
        cases hc
    | missing c hc hopen | looked c _ _ hc hopen =>
        rw [hclosed] at hc
        cases hc
        cases hopen
  unfold lookNow
  rw [bind_apply, onSite_apply, hlook]
  rfl

/-- Its closing has woken every receive that waits on a session. It reports this whatever else is there. -/
theorem Watchful.poll_closed (hw : h.Watchful saved) (hr : h.service.receives.get? ticket = some r)
    {n w : Nat} (hstage : r.stage = .waiting n w) (hclosed : h.Closed n) :
    poll ticket h = (some (.ready (.error (failed r ⟨.closed, sessionKey r.queue r.group⟩))),
      ⟨h.site, { h.service with receives := h.service.receives.erase ticket }⟩) := by
  have hsession := (hw.sound.waiting hr hstage).closed hclosed
  have hwoken : h.site.backend.transport.wakeups ≠ w := by
    intro he
    have hopen := ((hw.waiting hr hstage).idle he.symm).opened
    rw [hsession] at hopen
    cases hopen
  rw [poll_some hr, advance_waiting hstage, if_neg hwoken, lookNow_closed hsession]

/-- However long it takes, the next poll of the receive reports that its session was closed, and leaves
everything at the site as it is. -/
def Released (h : Host) (ticket : Nat) (r : Receive) : Prop :=
  ∀ later, .poll ticket ∉ later → .cancel ticket ∉ later →
    let k := (steps later h).2
    poll ticket k = (some (.ready (.error (failed r ⟨.closed, sessionKey r.queue r.group⟩))),
      ⟨k.site, { k.service with receives := k.service.receives.erase ticket }⟩)

theorem Watchful.released (hw : h.Watchful saved) (hr : h.service.receives.get? ticket = some r)
    {n w : Nat} (hstage : r.stage = .waiting n w) (hclosed : h.Closed n) : h.Released ticket r := by
  intro later hpoll hcancel k
  have hwatchful : k.Watchful saved := steps_keep (fun e _ hw => hw.step e) later hw
  have hstill : k.Closed n := steps_keep (P := fun k => k.Closed n)
    (fun e k hk => hk.extends (step_extends e k)) later hclosed
  exact hwatchful.poll_closed (steps_outstanding hw.sound hr hpoll hcancel) hstage hstill

theorem Attached.released (ha : h.Attached) (hw : h.Watchful saved)
    (hr : h.service.receives.get? ticket = some r) {n w : Nat} (hstage : r.stage = .waiting n w)
    (hnone : h.service.sessions.get? (sessionKey r.queue r.group) = none) : h.Released ticket r := by
  rcases ha r.queue r.group n ⟨ticket, r, w, hr, rfl, rfl, hstage⟩ with hcached | hclosed
  · rw [hnone] at hcached
    cases hcached
  · exact hw.released hr hstage hclosed

/-- Until its session is closed as well, the next poll of the receive answers what there is for it in its
own queue. It fails only if that queue has no topic. -/
def Undisturbed (h : Host) (ticket : Nat) (r : Receive) (session : Nat) : Prop :=
  ∀ later, .poll ticket ∉ later → .cancel ticket ∉ later →
    .closing session (.ok ()) ∉ chronicle deeds later h → .direct (.close session) ∉ later →
    let k := (steps later h).2
    ∃ k', poll ticket k = (some (k.site.backend.delivery r.queue r.group), k') ∧
      ∀ e, k.site.backend.delivery r.queue r.group = .ready (.error e) →
        k.site.backend.registry.topics.contains r.queue = false

theorem Watchful.undisturbed (hw : h.Watchful saved) (hr : h.service.receives.get? ticket = some r)
    {n w : Nat} (hstage : r.stage = .waiting n w) (hopen : ¬ h.Closed n)
    (hwoken : w < h.site.backend.transport.wakeups) : h.Undisturbed ticket r n := by
  intro later hpoll hcancel hclosing hdirect k
  have hwatchful : k.Watchful saved := steps_keep (fun e _ hw => hw.step e) later hw
  have hstill : k.service.receives.get? ticket = some r := steps_outstanding hw.sound hr hpoll hcancel
  have hunclosed : ¬ k.Closed n := by
    intro hclosed
    rcases steps_closed hw.sound later hclosed with hbefore | hlater | hpast
    · exact hopen hbefore
    · exact hclosing hlater
    · exact hdirect hpast
  have hdue : w < k.site.backend.transport.wakeups :=
    steps_keep (P := fun k => k.Sound ∧ w < k.site.backend.transport.wakeups)
      (fun e k hk => ⟨hk.1.step e, Nat.lt_of_lt_of_le hk.2 (step_evolves hk.1 e).wakeups_le⟩) later
      ⟨hw.sound, hwoken⟩ |>.2
  have hsession := (hwatchful.sound.waiting hstill hstage).unclosed hunclosed
  refine ⟨(lookNow ticket r n k).2, ?_, fun e he => Bool.eq_false_iff.mpr fun hlive =>
    Backend.delivery_of_live hlive r.group e he⟩
  rw [poll_some hstill, advance_waiting hstage, if_neg (Nat.ne_of_gt hdue), lookNow_answer hsession]

theorem closeSession_of_true (hclose : (closeSession queue group h).1 = .ready (.ok true)) :
    ∃ n s, h.service.lock.owner = none ∧ h.service.sessions.get? (sessionKey queue group) = some n ∧
      (closeNow n h.site).1 = .ok () ∧ (closeNow n h.site).2.Glance s ∧ (closeSession queue group h).2 =
        ⟨s, { h.service with sessions := h.service.sessions.erase (sessionKey queue group) }⟩ := by
  have hc := closeSession_closes queue group h
  generalize closeSession queue group h = out at hc hclose ⊢
  rcases out with ⟨answer, h'⟩
  cases hc with
  | busy | absent | failed => simp at hclose
  | closed n s t hfree hn hrun ht => exact ⟨n, t, hfree, hn, by rw [hrun], by rw [hrun]; exact ht, rfl⟩

theorem shutdown_of_ready (hready : (shutdown h).1 = .ready ()) :
    (shutdown h).2.service = { h.service with sessions := ∅ } := by
  have hd := shutdown_shutsDown h
  generalize shutdown h = out at hd hready ⊢
  rcases out with ⟨answer, h'⟩
  cases hd with
  | busy => cases hready
  | done => rfl

theorem closeNow_wakes {s : Site} (hok : (closeNow session s).1 = .ok ()) :
    (closeNow session s).2.backend.transport.wakeups = s.backend.transport.wakeups + 1 := by
  obtain ⟨e, -, hrun⟩ | ⟨-, hrun⟩ := closeNow_cases session s
  · rw [hrun] at hok
    cases hok
  · rw [hrun]
    rfl

theorem closeSession_closings (hfree : h.service.lock.owner = none)
    (hcached : h.service.sessions.get? (sessionKey queue group) = some session) :
    closings (.request (.closeSession queue group)) h = [(session, (closeNow session h.site).1)] := by
  simp [closings, hfree, hcached]

theorem closeSession_spares (hs : h.Sound) (hfree : h.service.lock.owner = none)
    (hcached : h.service.sessions.get? (sessionKey queue group) = some session)
    (hr : h.service.receives.get? ticket = some r) {n w : Nat} (hstage : r.stage = .waiting n w)
    (hkey : sessionKey r.queue r.group ≠ sessionKey queue group) (hopen : ¬ h.Closed n) :
    ¬ (closeSession queue group h).2.Closed n := by
  intro hclosed
  rcases (closeSession_evolves queue group h).closed_cases hclosed with hbefore | hmem | hdirect
  · exact hopen hbefore
  · rw [closeSession_closings hfree hcached] at hmem
    obtain ⟨rfl, -⟩ := Prod.mk.inj (List.mem_singleton.mp hmem)
    obtain ⟨q, g, hown, -, -, c, hc, rfl, rfl⟩ := hs.cached hcached
    obtain ⟨d, hd, hqueue, hgroup⟩ := hs.waiting hr hstage
    rw [hc] at hd
    cases hd
    exact hkey (by rw [hown, hqueue, hgroup])
  · cases hdirect

theorem close_releases (hw : h.Watchful saved) (ha : h.Attached)
    (hclose : (closeSession queue group h).1 = .ready (.ok true))
    (hr : h.service.receives.get? ticket = some r) {n w : Nat} (hstage : r.stage = .waiting n w) :
    let h₁ := (closeSession queue group h).2
    (sessionKey r.queue r.group = sessionKey queue group → h₁.Released ticket r) ∧
    (sessionKey r.queue r.group ≠ sessionKey queue group → ¬ h.Closed n → h₁.Undisturbed ticket r n) := by
  intro h₁
  obtain ⟨m, s, hfree, hm, hok, hs, hafter⟩ := closeSession_of_true hclose
  have hafter : h₁ = ⟨s, { h.service with sessions := h.service.sessions.erase (sessionKey queue group) }⟩ :=
    hafter
  have hw₁ : h₁.Watchful saved := hw.step (.request (.closeSession queue group))
  have hr₁ : h₁.service.receives.get? ticket = some r := by
    rw [hafter]
    exact hr
  refine ⟨fun hkey => ?_, fun hkey hopen => ?_⟩
  -- The only close of this step was answered with success, so the receive has lost its session to it.
  · have hattached : h₁.Attached := by
      refine ha.step hw.sound (e := .request (.closeSession queue group)) fun n error hmem => ?_
      rw [mem_deeds_closing, closeSession_closings hfree hm, hok] at hmem
      simp at hmem
    refine hattached.released hw₁ hr₁ hstage ?_
    rw [hafter, hkey]
    exact Table.get?_erase_self _ _
  · refine hw₁.undisturbed hr₁ hstage (closeSession_spares hw.sound hfree hm hr hstage hkey hopen) ?_
    -- The close has woken everyone, so the receive looks again at its next poll.
    have hwakeups : h₁.site.backend.transport.wakeups = h.site.backend.transport.wakeups + 1 := by
      rw [hafter, hs.transport, closeNow_wakes hok]
    rw [hwakeups]
    exact Nat.lt_succ_of_le (hw.waiting hr hstage).looked

theorem shutdown_releases (hw : h.Watchful saved) (ha : h.Attached) (hready : (shutdown h).1 = .ready ())
    (hnone : ∀ n e, .closing n (.error e) ∉ deeds (.request .shutdown) h)
    (hr : h.service.receives.get? ticket = some r) {n w : Nat} (hstage : r.stage = .waiting n w) :
    (shutdown h).2.Released ticket r := by
  have hafter := shutdown_of_ready hready
  have hattached : (shutdown h).2.Attached := ha.step hw.sound hnone
  refine hattached.released (hw.step (.request .shutdown)) ?_ hstage ?_
  · rw [hafter]
    exact hr
  · rw [hafter]
    exact Table.get?_empty _

theorem later_resumes (hw : h.Watchful saved)
    (hnone : h.service.sessions.get? (sessionKey queue group) = none)
    (hothers : ∀ ticket r, h.service.receives.get? ticket = some r → r.queue = queue → r.group = group →
      ∃ n w, r.stage = .waiting n w)
    (hbrokers : h.service.settings.brokers ≠ []) (later : List Event) :
    let k := (steps later (Host.start queue group h).2).2
    k.service.lock.owner = some h.service.nextTicket → k.site.backend.registry.topics.contains queue →
    ∃ answer k', poll h.service.nextTicket k = (some answer, k') ∧
      Resumes [.openSession, .receive] queue group k k' answer := by
  intro k howner hlive
  have hstarted : (Host.start queue group h).2.Watchful saved := hw.starts queue group
  have hlater : k.Watchful saved := steps_keep (fun e _ hw => hw.step e) later hstarted
  have hreserved : (Host.start queue group h).2.Reserved queue group h.service.nextTicket :=
    start_reserved hw.sound hnone fun hr hqueue hgroup hlock => by
      obtain ⟨n, w, hstage⟩ := hothers _ _ hr hqueue hgroup
      rw [hstage] at hlock
      exact hlock
  have hsettings : k.service.settings = h.service.settings :=
    (steps_settings later _).trans (start_settings queue group h)
  exact poll_resumes hlater.sound hlater.numbered (hreserved.steps hstarted.sound later) howner
    (hsettings ▸ hbrokers) hlive

theorem of_opened (settings : Settings) (site : Site) (es : List Event) {n : Nat}
    (hopened : .opened queue group n ∈ chronicle deeds es ⟨site, { settings }⟩) :
    nameFault? queue = none ∧ nameFault? group = none ∧ settings.brokers ≠ [] := by
  have hrun := chronicle_keep (f := deeds) (P := fun H h => h.Sound ∧ h.service.settings = settings ∧
      ∀ n, .opened queue group n ∈ H →
        nameFault? queue = none ∧ nameFault? group = none ∧ settings.brokers ≠ [])
    (fun H h e hP => ?_) es (H := []) ⟨.start site settings, rfl, fun n hmem => by cases hmem⟩
  · exact hrun.2.2 n hopened
  · obtain ⟨hs, hsettings, hH⟩ := hP
    refine ⟨hs.step e, (step_settings e h).trans hsettings, fun n hmem => ?_⟩
    rcases List.mem_append.mp hmem with hmem | hmem
    · exact hH n hmem
    · obtain ⟨hqueue, hgroup⟩ := (step_handles hs e).names hmem
      exact ⟨hqueue, hgroup, hsettings ▸ brokers_of_opened hmem⟩

/-- In every run from any saved state in which no closing of a session has failed: once a session is
closed, every receive that waits on it reports this when it is next polled, whatever is there for it by
then, and takes no message. A receive that waits on another session answers what its own queue has
for it; the closing has woken it, so it may learn that its topic is gone. After a shutdown every receive
that waits reports a closed session, and there are none in the table. The next receive for a group whose
session was closed, with no other of the group in line, opens another session as soon as it has the
lock, and is given the oldest message that the group has not been given. If a failure was planned for one
of its calls it may report that instead, and no message is lost. -/
theorem closing_releases (settings : Settings) (s : Snapshot) (clock : Int64) (site : Site)
    (es : List Event) :
    let start : Host := ⟨{ site with backend := s.restore clock }, { settings }⟩
    let h := (steps es start).2
    (∀ n e, .closing n (.error e) ∉ chronicle deeds es start) →
    (∀ queue group, (closeSession queue group h).1 = .ready (.ok true) →
      let h₁ := (closeSession queue group h).2
      (∀ q g, h₁.site.backend.undelivered q g = h.site.backend.undelivered q g) ∧
      ∀ ticket r n w, h.service.receives.get? ticket = some r → r.stage = .waiting n w →
        (r.queue = queue ∧ r.group = group → h₁.Released ticket r) ∧
        (¬ (r.queue = queue ∧ r.group = group) → ¬ h.Closed n → h₁.Undisturbed ticket r n)) ∧
    ((shutdown h).1 = .ready () → (∀ n e, .closing n (.error e) ∉ deeds (.request .shutdown) h) →
      let h₁ := (shutdown h).2
      h₁.service.sessions = ∅ ∧
      (∀ q g, h₁.site.backend.undelivered q g = h.site.backend.undelivered q g) ∧
      ∀ ticket r n w, h.service.receives.get? ticket = some r → r.stage = .waiting n w →
        h₁.Released ticket r) ∧
    ∀ queue group, (∃ n, .opened queue group n ∈ chronicle deeds es start) →
      h.service.sessions.get? (sessionKey queue group) = none →
      (∀ ticket r, h.service.receives.get? ticket = some r → r.queue = queue → r.group = group →
        ∃ n w, r.stage = .waiting n w) →
      (h.service.lock.owner = none → h.site.backend.registry.topics.contains queue →
        ∃ answer h', Host.start queue group h = ((h.service.nextTicket, answer), h') ∧
          Resumes [.existTopic, .openSession, .receive] queue group h h' answer) ∧
      ∀ later, let k := (steps later (Host.start queue group h).2).2
        k.service.lock.owner = some h.service.nextTicket → k.site.backend.registry.topics.contains queue →
        ∃ answer k', poll h.service.nextTicket k = (some answer, k') ∧
          Resumes [.openSession, .receive] queue group k k' answer := by
  intro start h hnone
  have hw : h.Watchful s := steps_watchful settings (Backend.restore_numbered s clock) es
  have ha : h.Attached := steps_attached settings _ es hnone
  have hs := hw.sound
  refine ⟨fun queue group hclose => ⟨fun q g => ?_, fun ticket r n w hr hstage => ?_⟩,
    fun hready hclosings => ⟨?_, fun q g => ?_, fun ticket r n w hr hstage => ?_⟩,
    fun queue group ⟨n, hopened⟩ habsent hothers => ?_⟩
  · exact (closeSession_evolves queue group h).undelivered_eq hw.numbered q g
  · obtain ⟨hown, hother⟩ := close_releases hw ha hclose hr hstage
    refine ⟨fun ⟨hqueue, hgroup⟩ => hown (by rw [hqueue, hgroup]), fun hne hopen => hother (fun hkey => ?_) hopen⟩
    obtain ⟨hqueue, hgroup⟩ := hs.service.named hr
    exact hne (sessionKey_inj hqueue hgroup hkey)
  · rw [shutdown_of_ready hready]
  · exact (shutdown_evolves h).undelivered_eq hw.numbered q g
  · exact shutdown_releases hw ha hready hclosings hr hstage
  · obtain ⟨hqueue, hgroup, hbrokers⟩ := of_opened settings _ es hopened
    have hsettings : h.service.settings = settings := steps_settings es start
    rw [← hsettings] at hbrokers
    exact ⟨fun hfree => start_resumes hs hw.numbered hqueue hgroup hfree habsent hbrokers,
      later_resumes hw habsent hothers hbrokers⟩

/-- A receive waits for each of two queues. When the session of the first is closed and then a message is
sent to it, the first receive reports the closing, and the message is left to the next one. -/
theorem closing_releases_first :
    let waiting : List Event := [.request (.createQueue "q"), .request (.createQueue "p"), .start "q" "g",
      .start "p" "g"]
    let sending : List Event := [.request (.send "q" "g" [1])]
    let polled : List Event := waiting ++ .request (.closeSession "q" "g") :: sending ++ [.poll 0]
    let start : Host := ⟨{}, { settings := ⟨["b"], "zk", 4, 2⟩ }⟩
    let k := (steps sending (closeSession "q" "g" (steps waiting start).2).2).2
    (∃ k', poll 0 k =
      (some (.ready (.error (failed ⟨"q", "g", .waiting 0 0⟩ ⟨.closed, sessionKey "q" "g"⟩))), k')) ∧
    (∃ k', poll 1 k = (some .pending, k')) ∧
    ∃ k', Host.start "q" "g" (steps polled start).2 = ((2, .ready (.ok [1])), k') := by
  intro waiting sending polled start k
  have hwaited : chronicle deeds waiting start = [.opened "q" "g" 0, .obtained "q" "g" 0,
      .opened "p" "g" 1, .obtained "p" "g" 1] := by decide +kernel
  have hpolled : chronicle deeds polled start = [.opened "q" "g" 0, .obtained "q" "g" 0,
      .opened "p" "g" 1, .obtained "p" "g" 1, .removed "q@g", .closing 0 (.ok ())] := by decide +kernel
  obtain ⟨hclose, -⟩ := closing_releases ⟨["b"], "zk", 4, 2⟩ {} 0 {} waiting fun n e hmem => by
    have hmem : .closing n (.error e) ∈ chronicle deeds waiting start := hmem
    simp [hwaited] at hmem
  obtain ⟨-, -, hnext⟩ := closing_releases ⟨["b"], "zk", 4, 2⟩ {} 0 {} polled fun n e hmem => by
    have hmem : .closing n (.error e) ∈ chronicle deeds polled start := hmem
    simp [hpolled] at hmem
  obtain ⟨-, hwaiting⟩ := hclose "q" "g" (by decide +kernel)
  obtain ⟨hreleased, -⟩ := hwaiting 0 ⟨"q", "g", .waiting 0 0⟩ 0 0 (by decide +kernel) rfl
  obtain ⟨-, hundisturbed⟩ := hwaiting 1 ⟨"p", "g", .waiting 1 0⟩ 1 0 (by decide +kernel) rfl
  have hfirst : poll 0 k = _ := hreleased ⟨rfl, rfl⟩ sending (by simp [sending]) (by simp [sending])
  obtain ⟨k', hsecond, -⟩ := hundisturbed (by simp) (fun ⟨c, hc, hclosed⟩ => by
      cases (hc.symm.trans (by decide +kernel) : some c = some ⟨"p", "g", false⟩)
      cases hclosed) sending (by simp [sending]) (by simp [sending]) (by decide +kernel) (by simp [sending])
  have hidle : poll 1 k = (some .pending, k') :=
    hsecond.trans (congrArg (fun answer => (some answer, k')) (by decide +kernel))
  obtain ⟨hstart, -⟩ := hnext "q" "g" ⟨0, by decide +kernel⟩ (by decide +kernel) fun ticket r hr hqueue => by
    have hmem := (Table.get?_eq_some_iff _ _ _).mp hr
    have hother := List.all_eq_true (p := fun e : Nat × Receive => e.2.queue != "q").mp (by decide +kernel) _ hmem
    simp [hqueue] at hother
  obtain ⟨answer, h', hrun, hresumes⟩ := hstart (by decide +kernel) (by decide +kernel)
  obtain ⟨left, hleft, -, rfl⟩ := (hresumes.reopens (by decide +kernel) (by decide +kernel)).served
  obtain rfl : left = [[1]] := Option.some.inj (hleft.symm.trans (by decide +kernel))
  exact ⟨⟨_, hfirst⟩, ⟨k', hidle⟩, h', hrun⟩

end Host

end ManagedQueue
