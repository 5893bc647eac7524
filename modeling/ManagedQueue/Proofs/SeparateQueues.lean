import ManagedQueue.Proofs.QueueSessions

namespace ManagedQueue

namespace Table

variable {κ α : Type} [LE κ] [LT κ] [Std.LawfulOrderLT κ] [Std.IsLinearOrder κ] [DecidableEq κ]

theorem keys_of_contains {s t : Table κ α} (h : ∀ k, s.contains k = t.contains k) : s.keys = t.keys := by
  have hkeys (u : Table κ α) : (u.mapValues fun _ _ => ()).keys = u.keys := by simp [keys, mapValues]
  have hmarks : (s.mapValues fun _ _ => ()) = t.mapValues fun _ _ => () := by
    apply ext_get?
    intro k
    have hk := h k
    unfold contains at hk
    rw [get?_mapValues, get?_mapValues]
    cases hs : s.get? k <;> cases ht : t.get? k <;> simp_all
  rw [← hkeys s, ← hkeys t, hmarks]

end Table

/-- The queue that the request is about; some are about all queues, or about groups or sessions. -/
def Request.queue? : Request → Option String
  | .createQueue queue | .updateQueue queue | .deleteQueue queue | .lookupQueue queue _
  | .addGroup _ queue _ | .updateGroup _ queue _ | .deleteGroup _ queue | .getGroup _ queue
  | .send queue _ _ | .receive queue _ | .acknowledge queue _ | .volume _ queue _ _
  | .closeSession queue _ => some queue
  | .lookupGroup _ | .audit | .sessionCount | .shutdown => none

namespace Host

open Operation

variable {queue other : String} {h k : Host}

/-- No call waits for the lock, and none is to fail. -/
structure AtRest (h : Host) : Prop where
  sound : h.Sound
  free : h.service.lock.owner = none
  unfailing : h.site.Unfailing
  counted : h.site.backend.Counted

structure Like (queue : String) (h k : Host) : Prop where
  quiet : h.AtRest
  quiet_other : k.AtRest
  site : h.site.Same true queue k.site
  settings : k.service.settings = h.service.settings
  held : ∀ group, k.held queue group = h.held queue group

/-- What can be saved of the queue is the same, and so are the groups that have a session. -/
structure Match (queue : String) (h k : Host) : Prop where
  share : k.site.backend.share queue = h.site.backend.share queue
  keys : ∀ group, k.service.sessions.contains (sessionKey queue group) =
    h.service.sessions.contains (sessionKey queue group)

/-- Of another queue everything is as it was. -/
structure Apart (other : String) (h k : Host) : Prop where
  site : h.site.Beside other k.site
  settings : k.service.settings = h.service.settings
  free : k.service.lock.owner = none
  held : ∀ group, k.held other group = h.held other group

theorem contains_of_held {group : String} (hheld : k.held queue group = h.held queue group) :
    k.service.sessions.contains (sessionKey queue group) =
      h.service.sessions.contains (sessionKey queue group) := by
  have hsome := congrArg Option.isSome hheld
  unfold held at hsome
  rwa [Option.isSome_map, Option.isSome_map] at hsome

namespace Match

theorem symm (h₁ : Match queue h k) : Match queue k h :=
  ⟨h₁.share.symm, fun group => (h₁.keys group).symm⟩

theorem trans {l : Host} (h₁ : Match queue h k) (h₂ : Match queue k l) : Match queue h l :=
  ⟨h₂.share.trans h₁.share, fun group => (h₂.keys group).trans (h₁.keys group)⟩

end Match

theorem Like.matches (hl : Like queue h k) : Match queue h k :=
  ⟨hl.site.backend.share, fun group => contains_of_held (hl.held group)⟩

theorem Apart.refl (hq : h.AtRest) : Apart other h h :=
  ⟨.refl hq.unfailing hq.counted, rfl, hq.free, fun _ => rfl⟩

theorem Apart.matches (ha : Apart other h k) : Match other h k :=
  ⟨ha.site.backend.same.share, fun group => contains_of_held (ha.held group)⟩

theorem Apart.atRest (ha : Apart other h k) (hk : k.Sound) : k.AtRest :=
  ⟨hk, ha.free, ha.site.unfailing, ha.site.backend.same.counted_other⟩

theorem Apart.like (ha : Apart other h k) (hq : h.AtRest) (hk : k.Sound)
    (hknown : h.site.backend.registry.Known (· ≠ other)) : Like other h k where
  quiet := hq
  quiet_other := ha.atRest hk
  site := ⟨hq.unfailing, ha.site.unfailing, ha.site.drift, ha.site.gateShut, ha.site.backend.view hknown⟩
  settings := ha.settings
  held := ha.held

/-- What is asked of the host is about the queue. -/
structure Concerns (queue : String) {α : Type} (x : HostM α) : Prop where
  reads : ∀ {h k : Host}, Like queue h k → (x k).1 = (x h).1 ∧ Match queue (x h).2 (x k).2
  apart : ∀ {other : String}, other ≠ queue → ∀ {h : Host}, h.AtRest → Apart other h (x h).2

/-- Sessions that are opened later change nothing of those in the table. -/
theorem held_of_prefix {group : String} (hs : h.Sound) (hsessions : k.service.sessions.get? (sessionKey queue group) =
      h.service.sessions.get? (sessionKey queue group))
    (hlonger : h.site.backend.transport.sessions <+: k.site.backend.transport.sessions) :
    k.held queue group = h.held queue group := by
  unfold held
  rw [hsessions]
  cases hn : h.service.sessions.get? (sessionKey queue group) with
  | none => rfl
  | some n =>
      obtain ⟨rest, hrest⟩ := hlonger
      have hlt := hs.cached_lt hn
      rw [Option.map_some, Option.map_some, ← hrest, List.getElem?_append_left hlt]

theorem Sound.held_queue (hs : h.Sound) {group : String} {c : Option Session}
    (hheld : h.held queue group = some c) : ∀ d, c = some d → d.queue = queue := by
  obtain ⟨n, hn, rfl⟩ := Option.map_eq_some_iff.mp hheld
  obtain ⟨q, g, hkey, hq, hg, d, hd, rfl, rfl⟩ := hs.cached hn
  obtain ⟨rfl, rfl⟩ := sessionKey_inj hq hg hkey.symm
  intro e he
  rw [hd] at he
  cases he
  rfl

theorem atOnce_concerns {α : Type} {found : Bool} {x : Settings → Operation α}
    (hx : ∀ settings, (x settings).Local found queue) (answer : α → Answer) :
    Concerns queue fun h => atOnce answer (x h.service.settings) h where
  reads {h k} hl := by
    obtain ⟨hanswer, hsites⟩ := (hx h.service.settings).reads hl.site
    have hsame : (atOnce answer (x h.service.settings) k).1 = (atOnce answer (x h.service.settings) h).1 :=
      congrArg (fun a : Except ServiceError α => Poll.ready (a.map answer)) hanswer
    rw [hl.settings]
    exact ⟨hsame, hsites.backend.share, hl.matches.keys⟩
  apart {other} hother h hq := by
    have hlocal := hx h.service.settings
    refine ⟨hlocal.apart hother hq.unfailing hq.counted, rfl, hq.free, fun group => ?_⟩
    exact held_of_prefix hq.sound rfl (hlocal.sessions h.site)

theorem reach_session (hs : h.Sound) {brokers : List String} {group : String} {c : Option Session}
    (hreach : (reach brokers queue group (h.held queue group) h.site).1 = .ready (.ok c)) :
    (∀ d, c = some d → d.queue = queue) ∧ nameFault? queue = none ∧ nameFault? group = none := by
  unfold reach at hreach
  rw [bind_apply] at hreach
  rcases hcheck : checkReceive queue group h.site with ⟨e | ⟨⟩, t⟩
  · rw [hcheck] at hreach
    cases hreach
  · rw [hcheck] at hreach
    refine ⟨?_, checkReceive_ok hcheck⟩
    -- The session is the one held for the key, or a new one opened for it.
    cases hheld : h.held queue group with
    | some d =>
        rw [hheld] at hreach
        cases hreach
        exact hs.held_queue hheld
    | none =>
        rw [hheld] at hreach
        dsimp only at hreach
        rw [passGate_run] at hreach
        split at hreach
        · cases hreach
        · rcases hopen : Site.openSession brokers queue group t with ⟨e | n, u⟩
          · rw [hopen] at hreach
            cases hreach
          · rw [hopen] at hreach
            cases hreach
            rintro d ⟨⟩
            rfl

theorem Left.apart {s : Site} {sessions : NameMap Nat} (hleft : h.Left s sessions k) (hs : h.Sound)
    (hsite : h.site.Beside other s)
    (hlonger : h.site.backend.transport.sessions <+: s.backend.transport.sessions)
    (hsessions : ∀ group, sessions.get? (sessionKey other group) =
      h.service.sessions.get? (sessionKey other group)) : Apart other h k := by
  refine ⟨by rw [hleft.site]; exact hsite, hleft.settings, hleft.free, fun group => ?_⟩
  exact held_of_prefix hs (by rw [hleft.sessions, hsessions]) (by rw [hleft.site]; exact hlonger)

theorem Left.matches {h' k' : Host} {s t : Site} {sessions sessions' : NameMap Nat}
    (hleft : h.Left s sessions h') (hleft' : k.Left t sessions' k') (hsites : s.Same true queue t)
    (hkeys : ∀ group, sessions'.contains (sessionKey queue group) =
      sessions.contains (sessionKey queue group)) : Match queue h' k' := by
  refine ⟨?_, fun group => ?_⟩
  · rw [hleft.site, hleft'.site]
    exact hsites.backend.share
  · rw [hleft.sessions, hleft'.sessions]
    exact hkeys group

section Served

variable {group : String} {reached : Poll (Except ServiceError (Option Session)) × Site} {out : Poll Received × Host}
  (hserved : Served queue group h reached out)

include hserved

theorem Served.matches {reached' : Poll (Except ServiceError (Option Session)) × Site}
    {out' : Poll Received × Host} (hserved' : Served queue group k reached' out')
    (hsame : reached'.1 = reached.1 ∧ reached.2.Same true queue reached'.2)
    (hqueue : ∀ c, reached.1 = .ready (.ok c) → ∀ d, c = some d → d.queue = queue)
    (hkeys : ∀ g, k.service.sessions.contains (sessionKey queue g) =
      h.service.sessions.contains (sessionKey queue g)) :
    out'.1 = out.1 ∧ Match queue out.2 out'.2 := by
  obtain ⟨answer', t⟩ := reached'
  obtain ⟨hanswer, hsites⟩ := hsame
  cases hanswer
  -- Equal answers of the gate mean that both were served alike.
  cases hserved with
  | refused e s h' hleft =>
      cases hserved' with
      | refused _ _ k' hleft' => exact ⟨rfl, hleft.matches hleft' hsites hkeys⟩
  | shut s h' hleft =>
      cases hserved' with
      | shut _ k' hleft' => exact ⟨rfl, hleft.matches hleft' hsites hkeys⟩
  | heard c s journal h' hleft =>
      cases hserved' with
      | heard _ _ journal' k' hleft' =>
          have hlocal : Task.Local true queue (hear queue group c) := hear_local (hqueue c rfl)
          have hnoted : Site.Same true queue { s with journal } { t with journal := journal' } :=
            ⟨hsites.unfailing, hsites.unfailing_other, hsites.drift, hsites.gateShut, hsites.backend⟩
          obtain ⟨hheard, hafter⟩ := hlocal.reads hnoted
          refine ⟨hheard, hleft.matches hleft' hafter fun g => ?_⟩
          rw [Table.contains_insert, Table.contains_insert, hkeys]

theorem Served.apart (hs : h.Sound) (hother : other ≠ queue) (hsite : h.site.Beside other reached.2)
    (hlonger : h.site.backend.transport.sessions <+: reached.2.backend.transport.sessions)
    (hsession : ∀ c, reached.1 = .ready (.ok c) →
      (∀ d, c = some d → d.queue = queue) ∧ nameFault? queue = none ∧ nameFault? group = none) :
    Apart other h out.2 := by
  cases hserved with
  | refused e s k hleft => exact hleft.apart hs hsite hlonger fun _ => rfl
  | shut s k hleft => exact hleft.apart hs hsite hlonger fun _ => rfl
  | heard c s journal k hleft =>
      obtain ⟨hqueue, hname, hgroup⟩ := hsession c rfl
      have hlocal : Task.Local true queue (hear queue group c) := hear_local hqueue
      have hheard := hlocal.apart (s := { s with journal }) hother hsite.unfailing
        hsite.backend.same.counted_other
      have hnoted : h.site.Beside other { s with journal } :=
        ⟨hsite.unfailing, hsite.drift, hsite.gateShut, hsite.backend⟩
      have hlater := hlonger.trans (hlocal.sessions { s with journal })
      refine hleft.apart hs (hnoted.trans hheard) hlater fun g => ?_
      rw [Table.get?_insert, if_neg]
      intro hkey
      obtain ⟨rfl, -⟩ := sessionKey_inj hname hgroup hkey.symm
      exact hother rfl

end Served

theorem receive_concerns (queue group : String) : Concerns queue (receive queue group) where
  reads {h k} hl := by
    have hserved := receive_served hl.quiet.sound hl.quiet.free hl.quiet.unfailing hl.quiet.counted queue group
    have hserved' := receive_served hl.quiet_other.sound hl.quiet_other.free hl.quiet_other.unfailing
      hl.quiet_other.counted queue group
    have hlocal := reach_local h.service.settings.brokers queue group (h.held queue group)
    rw [hl.settings, hl.held] at hserved'
    exact hserved.matches hserved' (hlocal.reads hl.site)
      (fun c hreach => (reach_session hl.quiet.sound hreach).1) hl.matches.keys
  apart {other} hother h hq := by
    have hserved := receive_served hq.sound hq.free hq.unfailing hq.counted queue group
    have hlocal := reach_local h.service.settings.brokers queue group (h.held queue group)
    exact hserved.apart hq.sound hother (hlocal.apart hother hq.unfailing hq.counted) (hlocal.sessions h.site)
      fun c => reach_session hq.sound

theorem closeSession_run (hq : h.AtRest) (queue group : String) : ∃ journal, closeSession queue group h =
    match h.service.sessions.get? (sessionKey queue group) with
    | none => (.ready (.ok false), h)
    | some n => (.ready (.ok true),
        ⟨{ h.site with
            backend := h.site.backend.withSessions
              (h.site.backend.transport.sessions.modify n ({ · with closed := true }))
              (h.site.backend.transport.wakeups + 1)
            journal },
          { h.service with sessions := h.service.sessions.erase (sessionKey queue group) }⟩) := by
  unfold closeSession
  rw [locked_run, hq.free]
  dsimp only
  rw [bind_apply, get_apply]
  dsimp only
  cases h.service.sessions.get? (sessionKey queue group) with
  | none => exact ⟨[], rfl⟩
  | some n =>
      have hclose : closeNow n h.site = (.ok (), (Site.closeSession n h.site).2) := by
        unfold closeNow
        rw [attempt_unfailing hq.unfailing]
        rfl
      dsimp only
      rw [bind_apply, modifyService_apply, bind_apply, onSite_apply, hclose]
      exact ⟨_, rfl⟩

theorem Sound.key_ne (hs : h.Sound) (hother : other ≠ queue) {g group : String} {n : Nat}
    (hn : h.service.sessions.get? (sessionKey other g) = some n) :
    sessionKey other g ≠ sessionKey queue group := by
  obtain ⟨q, g', hkey, hq, hg, -⟩ := hs.cached hn
  intro hsame
  obtain ⟨rfl, -⟩ := sessionKey_inj hq hg hkey.symm
  obtain ⟨rfl, -⟩ := sessionKey_inj hq hg (hkey.symm.trans hsame)
  exact hother rfl

theorem closeSession_concerns (queue group : String) : Concerns queue (closeSession queue group) where
  reads {h k} hl := by
    obtain ⟨journal, hrun⟩ := closeSession_run hl.quiet queue group
    obtain ⟨journal', hrun'⟩ := closeSession_run hl.quiet_other queue group
    have hkey := hl.matches.keys group
    rw [hrun, hrun']
    unfold Table.contains at hkey
    cases hn : h.service.sessions.get? (sessionKey queue group) with
    | none =>
        rw [hn, Option.isSome_none, Option.isSome_eq_false_iff, Option.isNone_iff_eq_none] at hkey
        rw [hkey]
        exact ⟨rfl, hl.matches⟩
    | some n =>
        rw [hn, Option.isSome_some] at hkey
        obtain ⟨m, hm⟩ := Option.isSome_iff_exists.mp hkey
        rw [hm]
        refine ⟨rfl, (hl.site.backend.withSessions _ _ _ _).share, fun g => ?_⟩
        dsimp only
        rw [Table.contains_erase, Table.contains_erase, hl.matches.keys]
  apart {other} hother h hq := by
    obtain ⟨journal, hrun⟩ := closeSession_run hq queue group
    rw [hrun]
    cases hn : h.service.sessions.get? (sessionKey queue group) with
    | none => exact .refl hq
    | some n =>
        refine ⟨⟨hq.unfailing, rfl, rfl, Backend.withSessions_beside hq.counted _ _⟩, rfl, hq.free, fun g => ?_⟩
        change Option.map _ ((h.service.sessions.erase (sessionKey queue group)).get? (sessionKey other g)) =
          Option.map _ (h.service.sessions.get? (sessionKey other g))
        rw [Table.get?_erase]
        cases hm : h.service.sessions.get? (sessionKey other g) with
        | none => rw [ite_self, Option.map_none, Option.map_none]
        | some m =>
            have hkey : sessionKey other g ≠ sessionKey queue group := hq.sound.key_ne hother hm
            -- The session that is closed stands under no other key.
            have hne : n ≠ m := fun heq => hkey (hq.sound.cached_inj hm (heq ▸ hn))
            rw [if_neg hkey, Option.map_some, Option.map_some]
            exact congrArg some (List.getElem?_modify_ne _ _ hne)

theorem Concerns.pure {α : Type} (a : α) : Concerns queue (Pure.pure a : HostM α) where
  reads hl := ⟨rfl, hl.matches⟩
  apart _ _ hq := .refl hq

theorem Concerns.map {α β : Type} {x : HostM α} (hx : Concerns queue x) (f : α → β) :
    Concerns queue (do return f (← x)) where
  reads hl := ⟨congrArg f (hx.reads hl).1, (hx.reads hl).2⟩
  apart hother _ hq := hx.apart hother hq

theorem perform_concerns {r : Request} (hr : r.queue? = some queue) (hqueue : queue ≠ "") :
    Concerns queue (perform r) := by
  cases r with
  | createQueue =>
      cases hr
      exact atOnce_concerns (fun settings => Lifecycle.create_local settings queue) _
  | updateQueue =>
      cases hr
      exact atOnce_concerns (fun _ => Lifecycle.update_local queue) _
  | deleteQueue =>
      cases hr
      exact atOnce_concerns (fun settings => Lifecycle.delete_local settings queue) _
  | lookupQueue _ group =>
      cases hr
      exact atOnce_concerns (fun _ => Lifecycle.lookup_local hqueue group) _
  | addGroup group _ access =>
      cases hr
      exact atOnce_concerns (fun _ => Groups.add_local group queue access) _
  | updateGroup group _ access =>
      cases hr
      exact atOnce_concerns (fun _ => Groups.update_local group queue access) _
  | deleteGroup group =>
      cases hr
      exact atOnce_concerns (fun _ => Groups.delete_local group queue) _
  | getGroup group =>
      cases hr
      exact atOnce_concerns (fun _ => Groups.single_local group queue) _
  | send _ group payload =>
      cases hr
      exact atOnce_concerns (fun _ => send_local queue group payload) _
  | receive _ group =>
      cases hr
      exact (receive_concerns queue group).map _
  | acknowledge =>
      cases hr
      exact .pure _
  | volume direction _ group window =>
      cases hr
      exact atOnce_concerns (fun _ => Volume.query_local direction queue group window) _
  | closeSession _ group =>
      cases hr
      exact (closeSession_concerns queue group).map _
  | lookupGroup | audit | sessionCount | shutdown => cases hr

/-- What concerns one queue is as if what concerns another had not come before it. -/
theorem Concerns.after {α β : Type} {x : HostM α} {y : HostM β} (hx : Concerns queue x) (hy : Concerns other y)
    (hne : queue ≠ other) (hq : h.AtRest) (hsound : (x h).2.Sound) (hsound' : (y h).2.Sound)
    (hknown : h.site.backend.registry.Known (· ≠ queue)) :
    (x (y h).2).1 = (x h).1 ∧ Match queue (y (x h).2).2 (x (y h).2).2 := by
  obtain ⟨hanswer, hmatch⟩ := hx.reads ((hy.apart hne hq).like hq hsound' hknown)
  have hrest := (hx.apart hne.symm hq).atRest hsound
  exact ⟨hanswer, (hy.apart hne hrest).matches.symm.trans hmatch⟩

theorem keys_of_matches (hs : h.Sound) (ks : k.Sound) (hmatch : ∀ queue, Match queue h k) :
    k.service.sessions.keys = h.service.sessions.keys := by
  refine Table.keys_of_contains fun key => ?_
  have hown {h : Host} (hs : h.Sound) (hkey : h.service.sessions.contains key = true) :
      ∃ queue group, key = sessionKey queue group := by
    obtain ⟨n, hn⟩ := Option.isSome_iff_exists.mp hkey
    obtain ⟨queue, group, hkey, -⟩ := hs.cached hn
    exact ⟨queue, group, hkey⟩
  have hsame : (∃ queue group, key = sessionKey queue group) →
      k.service.sessions.contains key = h.service.sessions.contains key := by
    rintro ⟨queue, group, rfl⟩
    exact (hmatch queue).keys group
  cases hkey : h.service.sessions.contains key with
  | true => rw [hsame (hown hs hkey), hkey]
  | false =>
      rw [Bool.eq_false_iff]
      intro hother
      rw [hsame (hown ks hother), hkey] at hother
      cases hother

/-- Where the lock is free and no failure is planned, requests about two queues may change places, unless
one of the names is cached without a topic. Each is answered alike in either order, and then the same can
be saved and there are sessions under the same keys. -/
theorem separate_requests_commute (settings : Settings) (saved : Snapshot) (clock : Int64) (site : Site)
    (es : List Event) {first second : Request} {queue other : String} (hfirst : first.queue? = some queue)
    (hsecond : second.queue? = some other) (hne : queue ≠ other) (hqueue : nameFault? queue = none)
    (hother : nameFault? other = none) :
    let h := (steps es ⟨{ site with backend := saved.restore clock }, { settings }⟩).2
    let h₁ := (perform second (perform first h).2).2
    let h₂ := (perform first (perform second h).2).2
    h.service.lock.owner = none → (∀ call, h.site.faults call = none) →
    (∀ name ∈ [queue, other], h.site.backend.registry.cached.contains name →
      h.site.backend.registry.topics.contains name) →
    (perform first (perform second h).2).1 = (perform first h).1 ∧
    (perform second (perform first h).2).1 = (perform second h).1 ∧
    h₂.site.backend.snapshot = h₁.site.backend.snapshot ∧
    h₂.service.sessions.keys = h₁.service.sessions.keys := by
  intro h h₁ h₂ hfree hfaults hcached
  have hsound : h.Sound := steps_sound settings _ es
  have hcounted : h.site.backend.Counted :=
    ⟨saved, (chronicle_evolves _ (.start _ settings) es).numbered (Backend.restore_numbered saved clock)⟩
  have hrest : h.AtRest := ⟨hsound, hfree, hfaults, hcounted⟩
  have hlater (r : Request) {k : Host} (hk : k.Sound) : (perform r k).2.Sound := hk.step (.request r)
  have hknown {name : String} (hname : name ∈ [queue, other]) :
      h.site.backend.registry.Known (· ≠ name) := by
    intro cached hmem
    by_cases heq : cached = name
    · subst heq
      exact .inl (hcached cached hname (List.contains_iff_mem.mpr hmem))
    · exact .inr heq
  have hnonempty {name : String} (hname : nameFault? name = none) : name ≠ "" := by
    rintro rfl
    exact absurd hname (by decide)
  have hx : Concerns queue (perform first) := perform_concerns hfirst (hnonempty hqueue)
  have hy : Concerns other (perform second) := perform_concerns hsecond (hnonempty hother)
  obtain ⟨hanswer, hmatch⟩ :=
    hx.after hy hne hrest (hlater first hsound) (hlater second hsound) (hknown (by simp))
  obtain ⟨hanswer', hmatch'⟩ :=
    hy.after hx hne.symm hrest (hlater second hsound) (hlater first hsound) (hknown (by simp))
  have hrest₁ := (hx.apart hne.symm hrest).atRest (hlater first hsound)
  have hrest₂ := (hy.apart hne hrest).atRest (hlater second hsound)
  have hall (name : String) : Match name h₁ h₂ := by
    by_cases hq : name = queue
    · subst hq
      exact hmatch
    by_cases ho : name = other
    · subst ho
      exact hmatch'.symm
    -- A third queue is left alone by both.
    have hleft : Match name h h₁ := (hx.apart hq hrest).matches.trans (hy.apart ho hrest₁).matches
    have hright : Match name h h₂ := (hy.apart ho hrest).matches.trans (hx.apart hq hrest₂).matches
    exact hleft.symm.trans hright
  refine ⟨hanswer, hanswer', Backend.snapshot_of_shares fun name => (hall name).share, ?_⟩
  exact keys_of_matches (hlater second (hlater first hsound)) (hlater first (hlater second hsound)) hall

/-- What is pending in one queue is received before or after another is deleted. -/
theorem receipt_beside_deletion :
    let es : List Event := [.request (.createQueue "a"), .request (.createQueue "b"), .request (.send "a" "g" [7])]
    let h := (steps es ⟨{ ({} : Site) with backend := Snapshot.restore {} 0 },
      { settings := ⟨["broker"], "registry", 1, 1⟩ }⟩).2
    (perform (.receive "a" "g") (perform (.deleteQueue "b") h).2).1 = .ready (.ok (.payload [7])) ∧
      (perform (.receive "a" "g") (perform (.deleteQueue "b") h).2).2.site.backend.snapshot =
        (perform (.deleteQueue "b") (perform (.receive "a" "g") h).2).2.site.backend.snapshot := by
  intro es h
  have hfirst : (Request.receive "a" "g").queue? = some "a" := rfl
  have hsecond : (Request.deleteQueue "b").queue? = some "b" := rfl
  have hreceived : (perform (.receive "a" "g") h).1 = .ready (.ok (.payload [7])) := rfl
  have hcached : ∀ name ∈ ["a", "b"], h.site.backend.registry.cached.contains name →
      h.site.backend.registry.topics.contains name := by decide
  obtain ⟨hanswer, -, hsnapshot, -⟩ := separate_requests_commute ⟨["broker"], "registry", 1, 1⟩ {} 0 {} es
    hfirst hsecond (by decide) (by decide) (by decide) rfl (fun _ => rfl) hcached
  exact ⟨hanswer.trans hreceived, hsnapshot⟩

end Host

end ManagedQueue
