import ManagedQueue.Proofs.ClosedSessions

namespace ManagedQueue

def Deed.Concerns (queue group : String) : Deed → Prop
  | .opened q g _ | .obtained q g _ => q = queue ∧ g = group
  | .removed key => key = sessionKey queue group
  | .closing _ _ => False

/-- The sessions opened for the group, in their order. -/
def openings (queue group : String) (H : List Deed) : List Nat :=
  H.filterMap fun
    | .opened q g n => if q = queue ∧ g = group then some n else none
    | _ => none

/-- What deeds make of the session under one key. It is opened only where there is none, and only
the one that is there is obtained. -/
inductive Course (queue group : String) : Option Nat → List Deed → Option Nat → Prop
  | done (s) : Course queue group s [] s
  | opened {n H t} (h : Course queue group (some n) H t) :
      Course queue group none (.opened queue group n :: H) t
  | obtained {n H t} (h : Course queue group (some n) H t) :
      Course queue group (some n) (.obtained queue group n :: H) t
  | removed {s H t} (h : Course queue group none H t) :
      Course queue group s (.removed (sessionKey queue group) :: H) t
  | aside {s d H t} (hd : ¬ d.Concerns queue group) (h : Course queue group s H t) :
      Course queue group s (d :: H) t

namespace Course

variable {queue group : String} {s t u : Option Nat} {H K : List Deed}

theorem append (h : Course queue group s H t) (k : Course queue group t K u) :
    Course queue group s (H ++ K) u := by
  induction h with
  | done => exact k
  | opened _ ih => exact .opened (ih k)
  | obtained _ ih => exact .obtained (ih k)
  | removed _ ih => exact .removed (ih k)
  | aside hd _ ih => exact .aside hd (ih k)

theorem split (h : Course queue group s (H ++ K) u) :
    ∃ t, Course queue group s H t ∧ Course queue group t K u := by
  induction H generalizing s with
  | nil => exact ⟨s, .done s, h⟩
  | cons d H ih =>
      cases h with
      | opened h =>
          obtain ⟨t, hH, hK⟩ := ih h
          exact ⟨t, .opened hH, hK⟩
      | obtained h =>
          obtain ⟨t, hH, hK⟩ := ih h
          exact ⟨t, .obtained hH, hK⟩
      | removed h =>
          obtain ⟨t, hH, hK⟩ := ih h
          exact ⟨t, .removed hH, hK⟩
      | aside hd h =>
          obtain ⟨t, hH, hK⟩ := ih h
          exact ⟨t, .aside hd hH, hK⟩

theorem one (h : Course queue group s H t) (hH : .removed (sessionKey queue group) ∉ H) :
    ∃ n, (∀ m, s = some m → m = n) ∧
      (openings queue group H = [] ∨ s = none ∧ openings queue group H = [n]) ∧
      ∀ m, .obtained queue group m ∈ H → m = n := by
  induction h with
  | done s => exact ⟨s.getD 0, by rintro m rfl; rfl, .inl rfl, by simp⟩
  | @opened n H t _ ih =>
      obtain ⟨m, hheld, hopened, hobtained⟩ := ih fun hr => hH (.tail _ hr)
      obtain rfl := hheld n rfl
      refine ⟨n, by simp, .inr ⟨rfl, ?_⟩, fun k hk => hobtained k (by simpa using hk)⟩
      simpa [openings] using hopened
  | @obtained n H t _ ih =>
      obtain ⟨m, hheld, hopened, hobtained⟩ := ih fun hr => hH (.tail _ hr)
      obtain rfl := hheld n rfl
      refine ⟨n, by simp, by simpa [openings] using hopened, fun k hk => ?_⟩
      rcases List.mem_cons.mp hk with hk | hk
      · cases hk
        rfl
      · exact hobtained k hk
  | removed => exact absurd (.head _) hH
  | @aside s d H t hd _ ih =>
      obtain ⟨n, hheld, hopened, hobtained⟩ := ih fun hr => hH (.tail _ hr)
      have hopenings : openings queue group (d :: H) = openings queue group H := by
        cases d with
        | opened q g m => exact List.filterMap_cons_none (if_neg hd)
        | obtained | removed | closing => rfl
      refine ⟨n, hheld, hopenings ▸ hopened, fun m hm => ?_⟩
      rcases List.mem_cons.mp hm with hm | hm
      · exact absurd (hm ▸ ⟨rfl, rfl⟩) hd
      · exact hobtained m hm

theorem removals (keys : List String) (s : Option Nat) : Course queue group s (keys.map .removed)
    (if sessionKey queue group ∈ keys then none else s) := by
  induction keys generalizing s with
  | nil => exact .done s
  | cons key keys ih =>
      by_cases hkey : key = sessionKey queue group
      · subst hkey
        have hrest := ih none
        rw [ite_self] at hrest
        rw [if_pos (List.mem_cons_self ..)]
        exact .removed hrest
      · have hmem : (sessionKey queue group ∈ key :: keys) = (sessionKey queue group ∈ keys) := by
          simp [Ne.symm hkey]
        simp only [hmem]
        exact .aside hkey (ih s)

theorem closings (closes : List (Nat × Except CollaboratorError Unit)) (s : Option Nat) :
    Course queue group s (closes.map fun c => .closing c.1 c.2) s := by
  induction closes with
  | nil => exact .done s
  | cons c closes ih => exact .aside id ih

end Course

namespace Host

theorem Handles.course {count : Nat} {before after : NameMap Nat} {D : List Deed}
    (h : Handles count before after D) (queue group : String) :
    Course queue group (before.get? (sessionKey queue group)) D
      (after.get? (sessionKey queue group)) := by
  cases h with
  | kept hafter => exact hafter ▸ .done _
  | found q g n hqueue hgroup hn hafter =>
      rw [hafter]
      by_cases hkey : q = queue ∧ g = group
      · obtain ⟨rfl, rfl⟩ := hkey
        rw [hn]
        exact .obtained (.done _)
      · exact .aside hkey (.done _)
  | opened q g hqueue hgroup hn hafter =>
      rw [hafter, Table.get?_insert]
      by_cases hkey : q = queue ∧ g = group
      · obtain ⟨rfl, rfl⟩ := hkey
        rw [hn, if_pos rfl]
        exact .opened (.obtained (.done _))
      · have hne : sessionKey queue group ≠ sessionKey q g :=
          fun he => hkey (sessionKey_inj hqueue hgroup he.symm)
        rw [if_neg hne]
        exact .aside hkey (.aside hkey (.done _))
  | dropped keys closes hkeys =>
      rw [hkeys]
      exact (Course.removals keys _).append (.closings closes _)

theorem chronicle_course (settings : Settings) (site : Site) (es : List Event) (queue group : String) :
    Course queue group none (chronicle deeds es ⟨site, { settings }⟩)
      ((steps es ⟨site, { settings }⟩).2.service.sessions.get? (sessionKey queue group)) := by
  have hrun := chronicle_keep (f := deeds) (P := fun H h =>
    h.Sound ∧ Course queue group none H (h.service.sessions.get? (sessionKey queue group)))
    (fun _ _ e hP => ⟨hP.1.step e, hP.2.append ((step_handles hP.1 e).course queue group)⟩) es
    (H := []) (h := ⟨site, { settings }⟩) ⟨.start site settings, .done _⟩
  exact hrun.2

/-- The receive whose opening of a session fails or is given up in this step. -/
def abandons (e : Event) (h : Host) : Option Receive :=
  match e, acquisition e h with
  | .cancel ticket, _ => (h.service.receives.get? ticket).filter (·.stage = .opening)
  | .request (.receive _ _), some (r, .waits) => if h.service.lock.owner = none then some r else none
  | _, some (r, .refused _) => some r
  | _, _ => none

variable {h : Host} {ticket : Nat} {r : Receive}

/-- How the owner of the lock comes by its session. It takes the one under its key. Where there is none it
has one opened for itself, unless openings wait at the gate, and that one is under its key then. An opening
that fails leaves neither a session nor an entry of the table. -/
def ComesBy (r : Receive) (a : Acquisition) (before after : Host) : Prop :=
  match before.service.sessions.get? (sessionKey r.queue r.group), before.site.gateShut,
    opening r before with
  | some n, _, _ => a = .found n ∧ KeepsSessions before after
  | none, true, _ => a = .waits ∧ KeepsSessions before after
  | none, false, .error e => a = .refused e ∧ KeepsSessions before after
  | none, false, .ok n => a = .opened n ∧ n = before.site.backend.transport.sessions.length ∧
      after.service.sessions = before.service.sessions.insert (sessionKey r.queue r.group) n ∧
      after.site.backend.transport.sessions =
        before.site.backend.transport.sessions ++ [⟨r.queue, r.group, false⟩]

theorem ComesBy.followed {a : Acquisition} {h₁ h₂ : Host} (hc : ComesBy r a h h₁) (k : KeepsSessions h₁ h₂) :
    ComesBy r a h h₂ := by
  unfold ComesBy at hc ⊢
  split at hc
  · exact ⟨hc.1, hc.2.trans k⟩
  · exact ⟨hc.1, hc.2.trans k⟩
  · exact ⟨hc.1, hc.2.trans k⟩
  · obtain ⟨ha, hn, htable, htransport⟩ := hc
    exact ⟨ha, hn, k.table.trans htable, k.transport.trans htransport⟩

theorem Acquires.comesBy {a : Acquisition} {h' : Host} (ha : Acquires ticket r h a h') (hs : h.Sound)
    (hr : h.service.receives.get? ticket = some r) (ho : h.service.lock.owner = some ticket) :
    ComesBy r a h h' := by
  have hgrows := ha.grows
  unfold ComesBy
  cases ha with
  | inLine _ howner => exact absurd ho howner
  | shut hmay hgate =>
      rw [(hs.mayOpen hr hmay).2, hgate]
      exact ⟨rfl, rfl, rfl⟩
  | found n _ _ hn =>
      rw [hn]
      exact ⟨rfl, rfl, rfl⟩
  | refused e s hmay hgate _ _ hopening =>
      rw [(hs.mayOpen hr hmay).2, hgate, hopening]
      exact ⟨rfl, rfl, hgrows.trans (List.append_nil _)⟩
  | opened i s hmay hgate _ _ _ hopening =>
      rw [(hs.mayOpen hr hmay).2, hgate, hopening]
      exact ⟨rfl, rfl, rfl, hgrows⟩

/-- The owner of the lock goes for its session as soon as it is polled. -/
theorem owner_claims (hs : h.Sound) (ho : h.service.lock.owner = some ticket) :
    ∃ r, claimant (.poll ticket) h = some (ticket, r, h) := by
  obtain ⟨r, hr, hstage⟩ := (hs.service.atLock ticket).mp (by simp [Lock.tickets, ho])
  refine ⟨r, claimant_poll hr fun n w hwaits => ?_⟩
  rw [hwaits] at hstage
  exact hstage

theorem claimant_comesBy (hs : h.Sound) {e : Event} {h₁ : Host}
    (hc : claimant e h = some (ticket, r, h₁)) : ∃ a, acquisition e h = some (r, a) ∧
      if h₁.service.lock.owner = some ticket then ComesBy r a h₁ (step e h).2
      else a = .waits ∧ KeepsSessions h₁ (step e h).2 := by
  have hclaims := claimant_claims hc
  have ha := acquire_acquires ticket r h₁
  refine ⟨_, acquisition_of_claimant hc, ?_⟩
  split
  · next ho =>
    exact (ha.comesBy (hclaims.sound hs) hclaims.outstanding ho).followed hclaims.after
  · next ho =>
    have hwaits : acquire ticket r h₁ = (.waits, h₁) := by
      have hopening (hmay : h₁.MayOpen ticket r) : h₁.service.lock.owner = some ticket :=
        ((hclaims.sound hs).mayOpen hclaims.outstanding hmay).1
      generalize acquire ticket r h₁ = out at ha ⊢
      rcases out with ⟨a, h'⟩
      cases ha with
      | inLine => rfl
      | shut hmay | refused _ _ hmay | opened _ _ hmay => exact absurd (hopening hmay) ho
      | found _ _ howner => exact absurd howner ho
    have hafter := hclaims.after
    rw [hwaits] at hafter ⊢
    exact ⟨rfl, hafter⟩

theorem abandons_cases {e : Event} (ha : abandons e h = some r) :
    (∃ ticket, e = .cancel ticket ∧ h.service.receives.get? ticket = some r ∧ r.stage = .opening) ∨
    (∃ error, acquisition e h = some (r, .refused error)) ∨
    ∃ queue group, e = .request (.receive queue group) ∧ acquisition e h = some (r, .waits) ∧
      h.service.lock.owner = none := by
  unfold abandons at ha
  split at ha
  · next ticket =>
    rw [Option.filter_eq_some_iff] at ha
    exact .inl ⟨ticket, rfl, ha.1, by simpa using ha.2⟩
  · next queue group r' hacq =>
    split at ha
    · next hfree =>
      cases ha
      exact .inr (.inr ⟨queue, group, rfl, hacq, hfree⟩)
    · cases ha
  · next r' error _ hacq =>
    cases ha
    exact .inr (.inl ⟨error, hacq⟩)
  · cases ha

theorem Acquires.refused_leaves (hs : h.Sound) (hr : h.service.receives.get? ticket = some r)
    {error : CollaboratorError} {h' : Host} (ha : Acquires ticket r h (.refused error) h') :
    h.service.lock.owner = some ticket ∧ KeepsSessions h h' ∧
      h.service.sessions.get? (sessionKey r.queue r.group) = none ∧
      h'.service.lock.owner = h.service.lock.line.head? := by
  have hgrows := ha.grows
  cases ha with
  | refused _ s hmay =>
      obtain ⟨ho, hn⟩ := hs.mayOpen hr hmay
      exact ⟨ho, ⟨rfl, hgrows.trans (List.append_nil _)⟩, hn, by rw [Lock.owner_leave, if_pos ho]⟩

theorem Enters.lock_free (hs : h.Sound) {queue group : String} {h₁ : Host}
    (he : Enters queue group h (ticket, .ok r) h₁) (ho : h₁.service.lock.owner = some ticket) :
    h.service.lock.line = [] ∧ h₁.service.lock.line = [] := by
  cases he with
  | entered s =>
      cases howner : h.service.lock.owner with
      | none => simp [Lock.ask, howner, hs.service.orderly.free howner]
      | some owner =>
          have hnext : owner = h.service.nextTicket := by simpa [Lock.ask, howner] using ho
          exact absurd (by simp [Lock.tickets, howner, hnext]) hs.service.not_mem_next

/-- No session is opened for the receive or put into the table, and the head of the line has the lock. -/
def Releases (r : Receive) (h h' : Host) : Prop :=
  KeepsSessions h h' ∧
    h.service.sessions.get? (sessionKey r.queue r.group) = none ∧
    h'.service.lock.owner = h.service.lock.line.head?

theorem refused_step {e : Event} {h₁ h' : Host} {error : CollaboratorError}
    (hc : claimant e h = some (ticket, r, h₁)) (hrun : acquire ticket r h₁ = (.refused error, h')) :
    (step e h).2 = ⟨h'.site, { h'.service with receives := h'.service.receives.erase ticket }⟩ := by
  obtain ⟨rfl, rfl, hr, hstage⟩ | ⟨queue, group, hevent, henter⟩ := claimant_cases hc
  · rw [step_poll, poll_some hr, advance_run ticket r h₁ hstage, hrun]
  · have he := enter_enters queue group h
    rw [henter] at he
    have hstart : start queue group h = ((ticket, .ready (.error (failed r error))),
        ⟨h'.site, { h'.service with receives := h'.service.receives.erase ticket }⟩) := by
      rw [start_run, henter]
      dsimp only
      rw [advance_run ticket r h₁ he.atLock, hrun]
    rcases hevent with rfl | rfl
    · exact congrArg Prod.snd hstart
    · change (receive queue group h).2 = _
      rw [receive_run, hstart]

theorem claimant_line (hs : h.Sound) {e : Event} {h₁ : Host} (hc : claimant e h = some (ticket, r, h₁))
    (ho : h₁.service.lock.owner = some ticket) : h₁.service.lock.line = h.service.lock.line := by
  obtain ⟨-, rfl, -⟩ | ⟨queue, group, -, henter⟩ := claimant_cases hc
  · rfl
  · have he := enter_enters queue group h
    rw [henter] at he
    obtain ⟨hline, hline₁⟩ := he.lock_free hs ho
    rw [hline, hline₁]

theorem refused_releases (hs : h.Sound) {e : Event} {h₁ : Host} {error : CollaboratorError}
    (hc : claimant e h = some (ticket, r, h₁)) (ha : (acquire ticket r h₁).1 = .refused error) :
    Releases r h (step e h).2 := by
  have hclaims := claimant_claims hc
  have hacquires := acquire_acquires ticket r h₁
  have hafter := hclaims.after
  rcases hrun : acquire ticket r h₁ with ⟨a, h'⟩
  rw [hrun] at ha hacquires hafter
  subst ha
  obtain ⟨ho, hkeeps, hn, howner⟩ := hacquires.refused_leaves (hclaims.sound hs) hclaims.outstanding
  refine ⟨(hclaims.before.trans hkeeps).trans hafter, hclaims.before.table ▸ hn, ?_⟩
  rw [refused_step hc hrun, ← claimant_line hs hc ho]
  exact howner

theorem receive_releases (hs : h.Sound) {queue group : String} {h₁ : Host}
    (hc : claimant (.request (.receive queue group)) h = some (ticket, r, h₁))
    (ha : (acquire ticket r h₁).1 = .waits) (hfree : h.service.lock.owner = none) :
    Releases r h (step (.request (.receive queue group)) h).2 := by
  have hclaims := claimant_claims hc
  obtain ⟨hevent, -⟩ | ⟨queue', group', hevent, henter⟩ := claimant_cases hc
  · cases hevent
  obtain hevent | hevent := hevent <;> cases hevent
  have he := enter_enters queue group h
  rw [henter] at he
  have ho : h₁.service.lock.owner = some ticket := by
    cases he
    simp [Lock.ask, hfree]
  have hacquires := acquire_acquires ticket r h₁
  rcases hrun : acquire ticket r h₁ with ⟨a, h'⟩
  rw [hrun] at ha hacquires
  subst ha
  cases hacquires with
  | inLine _ howner => exact absurd ho howner
  | shut hmay hgate =>
      have hn := ((hclaims.sound hs).mayOpen hclaims.outstanding hmay).2
      rw [hclaims.before.table] at hn
      have hline := claimant_line hs hc ho
      change Releases r h (receive queue group h).2
      rw [receive_run, start_run, henter]
      dsimp only
      rw [advance_run ticket r h₁ he.atLock, hrun]
      dsimp only
      -- The receive has to wait at the gate with the lock, so it is given up and the lock with it.
      obtain ⟨hnone, -⟩ | ⟨r', -, hcancel⟩ := cancel_cases ticket ⟨h₁.site, { h₁.service with
        receives := h₁.service.receives.insert ticket { r with stage := .opening } }⟩
      · rw [Table.get?_insert_self] at hnone
        cases hnone
      · rw [hcancel]
        exact ⟨⟨hclaims.before.table, hclaims.before.transport⟩, hn, by rw [Lock.owner_leave, if_pos ho, hline]⟩

theorem abandons_releases (hs : h.Sound) {e : Event} (ha : abandons e h = some r) :
    Releases r h (step e h).2 := by
  obtain ⟨ticket, rfl, hr, hstage⟩ | ⟨error, hacq⟩ | ⟨queue, group, rfl, hacq, hfree⟩ := abandons_cases ha
  · obtain ⟨ho, hn⟩ := hs.service.opening hr hstage
    change Releases r h (cancel ticket h).2
    obtain ⟨hnone, -⟩ | ⟨r', -, hrun⟩ := cancel_cases ticket h
    · rw [hr] at hnone
      cases hnone
    · rw [hrun]
      exact ⟨⟨rfl, rfl⟩, hn, by rw [Lock.owner_leave, if_pos ho]⟩
  · obtain ⟨ticket, h₁, hc, hanswer⟩ := acquisition_cases hacq
    exact refused_releases hs hc hanswer.symm
  · obtain ⟨ticket, h₁, hc, hanswer⟩ := acquisition_cases hacq
    exact receive_releases hs hc hanswer.symm hfree

theorem chronicle_waitsOn (es : List Event) {queue group : String} {n : Nat}
    (hw : (steps es h).2.WaitsOn queue group n) :
    h.WaitsOn queue group n ∨ .obtained queue group n ∈ chronicle deeds es h := by
  induction es generalizing h with
  | nil => exact .inl hw
  | cons e es ih =>
      rcases ih hw with ⟨ticket, hfirst⟩ | hlater
      · exact (step_waits e hfirst).imp (⟨ticket, ·⟩) fun hobtains => List.mem_append_left _ hobtains.2
      · exact .inr (List.mem_append_right _ hlater)

/-- Between two removals of its key at most one session is opened, whatever the transport has more of after
each step, and no other is obtained; a receive comes to wait on none but the one it obtains in that step. Only a
session that was opened gets into the table, an opening that fails or is given up leaves no session and passes
the lock to the head of the line, and whoever goes for its session as the owner of the lock opens for itself
where it finds nothing, so that all that can keep it from its session is the gate or the failure of its own
call. -/
theorem session_constructed_once (settings : Settings) (site : Site) (es : List Event) :
    let start : Host := ⟨site, { settings }⟩
    let h := (steps es start).2
    (∀ queue group before period after,
      chronicle deeds es start = before ++ period ++ after →
      .removed (sessionKey queue group) ∉ period →
      ∃ n, (openings queue group period = [] ∨ openings queue group period = [n]) ∧
        ∀ m, .obtained queue group m ∈ period → m = n) ∧
    (∀ queue group n, h.WaitsOn queue group n → .obtained queue group n ∈ chronicle deeds es start) ∧
    (∀ e ticket queue group n, (step e h).2.Waits ticket queue group n →
      h.Waits ticket queue group n ∨ Obtains e h ticket queue group n) ∧
    (∀ e key n, (step e h).2.service.sessions.get? key = some n →
      h.service.sessions.get? key = some n ∨
        ∃ queue group, key = sessionKey queue group ∧ .opened queue group n ∈ deeds e h) ∧
    (∀ e r, abandons e h = some r → Releases r h (step e h).2) ∧
    (∀ ticket, h.service.lock.owner = some ticket → ∃ r, claimant (.poll ticket) h = some (ticket, r, h)) ∧
    ∀ e ticket r h₁, claimant e h = some (ticket, r, h₁) → KeepsSessions h h₁ ∧
      ∃ a, acquisition e h = some (r, a) ∧
        if h₁.service.lock.owner = some ticket then ComesBy r a h₁ (step e h).2
        else a = .waits ∧ KeepsSessions h₁ (step e h).2 := by
  intro start h
  have hs : h.Sound := steps_sound settings site es
  refine ⟨fun queue group before period after hrun hperiod => ?_, fun queue group n hw => ?_,
    fun e ticket queue group n => step_waits e, fun e key n hn => (step_handles hs e).new hn,
    fun e r ha => abandons_releases hs ha, fun ticket ho => owner_claims hs ho,
    fun e ticket r h₁ hc => ⟨(claimant_claims hc).before, claimant_comesBy hs hc⟩⟩
  · have hcourse := chronicle_course settings site es queue group
    rw [hrun] at hcourse
    obtain ⟨t, hcourse, -⟩ := hcourse.split
    obtain ⟨s, -, hcourse⟩ := hcourse.split
    obtain ⟨n, -, hopened, hobtained⟩ := hcourse.one hperiod
    exact ⟨n, hopened.imp_right (·.2), hobtained⟩
  · refine (chronicle_waitsOn es hw).resolve_left ?_
    rintro ⟨ticket, r, w, hr, -⟩
    cases hr

/-- Of two receives that come while a session is being opened, the second obtains the session of the
first. Another one is opened only after a removal. -/
example : chronicle deeds [.request (.createQueue "q"), .condition (.gate true), .start "q" "g",
      .start "q" "g", .condition (.gate false), .poll 0, .poll 1, .request (.closeSession "q" "g"),
      .start "q" "g"] ⟨{}, { settings := ⟨["broker"], "registry", 1, 1⟩ }⟩ =
    [.opened "q" "g" 0, .obtained "q" "g" 0, .obtained "q" "g" 0, .removed "q@g",
      .closing 0 (.ok ()), .opened "q" "g" 1, .obtained "q" "g" 1] := by
  rfl

end Host

end ManagedQueue
