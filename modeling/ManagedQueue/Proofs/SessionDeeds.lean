import ManagedQueue.Proofs.SessionGrowth
import ManagedQueue.Proofs.SessionTable
import Mathlib.Data.List.Nodup

namespace ManagedQueue

inductive Deed where
  | opened (queue group : String) (session : Nat)
  | obtained (queue group : String) (session : Nat)
  | removed (key : String)
  | closing (session : Nat) (answer : Except CollaboratorError Unit)
deriving DecidableEq

namespace Host

/-- The receive that goes for its session in this step, with its ticket and the host that it finds. -/
def claimant : Event → Host → Option (Nat × Receive × Host)
  | .poll ticket, h =>
    match h.service.receives.get? ticket with
    | none => none
    | some r =>
      match r.stage with
      | .waiting _ _ => none
      | _ => some (ticket, r, h)
  | .start queue group, h | .request (.receive queue group), h =>
    match enter queue group h with
    | ((_, .error _), _) => none
    | ((ticket, .ok r), h') => some (ticket, r, h')
  | _, _ => none

/-- How the receive that goes for its session comes by it. -/
def acquisition (e : Event) (h : Host) : Option (Receive × Acquisition) :=
  (claimant e h).map fun (ticket, r, h') => (r, (acquire ticket r h').1)

def obtained : Option (Receive × Acquisition) → List Deed
  | some (r, .opened n) | some (r, .found n) => [.obtained r.queue r.group n]
  | _ => []

/-- The sessions that the transport has after the step and had not before, with their places. Those that
are opened past the service do not count. -/
def constructed : Event → Host → List (Session × Nat)
  | .direct _, _ => []
  | e, h =>
    let count := h.site.backend.transport.sessions.length
    ((step e h).2.site.backend.transport.sessions.drop count).zipIdx count

/-- The sessions that the step tries to close, with the answers. -/
def closings : Event → Host → List (Nat × Except CollaboratorError Unit)
  | .request (.closeSession queue group), h =>
    if h.service.lock.owner.isSome then []
    else
      match h.service.sessions.get? (sessionKey queue group) with
      | none => []
      | some n => [(n, (closeNow n h.site).1)]
  | .request .shutdown, h =>
    if h.service.lock.owner.isSome then []
    else
      let entries := h.service.sessions.entries
      (entries.map (·.2)).zip ((closeEach entries h.site).1.map (·.2))
  | _, _ => []

def removals (before after : Host) : List String :=
  before.service.sessions.keys.filter (!after.service.sessions.contains ·)

def deeds (e : Event) (h : Host) : List Deed :=
  ((constructed e h).map fun c => .opened c.1.queue c.1.group c.2) ++ obtained (acquisition e h) ++
    (removals h (step e h).2).map .removed ++ (closings e h).map fun c => .closing c.1 c.2

/-- The ways in which a step may treat the table, with the number of sessions opened before it. -/
inductive Handles (count : Nat) (before after : NameMap Nat) : List Deed → Prop
  | kept (hafter : after = before) : Handles count before after []
  | found (queue group n) (hqueue : nameFault? queue = none) (hgroup : nameFault? group = none)
      (hn : before.get? (sessionKey queue group) = some n) (hafter : after = before) :
      Handles count before after [.obtained queue group n]
  | opened (queue group) (hqueue : nameFault? queue = none) (hgroup : nameFault? group = none)
      (hn : before.get? (sessionKey queue group) = none)
      (hafter : after = before.insert (sessionKey queue group) count) :
      Handles count before after [.opened queue group count, .obtained queue group count]
  | dropped (keys : List String) (closes : List (Nat × Except CollaboratorError Unit))
      (hkeys : ∀ key, after.get? key = if key ∈ keys then none else before.get? key)
      (hcloses : closes.map (·.1) = keys.filterMap before.get?) (hnodup : keys.Nodup) :
      Handles count before after
        (keys.map .removed ++ closes.map fun c => .closing c.1 c.2)

theorem closing_of_removed {before : NameMap Nat} {keys : List String} {key : String} {n : Nat}
    {closes : List (Nat × Except CollaboratorError Unit)}
    (hcloses : closes.map (·.1) = keys.filterMap before.get?) (hkey : key ∈ keys)
    (hcached : before.get? key = some n) : ∃ answer, (n, answer) ∈ closes := by
  have hmem : n ∈ closes.map (·.1) := by
    rw [hcloses]
    exact List.mem_filterMap.mpr ⟨key, hkey, hcached⟩
  obtain ⟨⟨_, answer⟩, hc, rfl⟩ := List.mem_map.mp hmem
  exact ⟨answer, hc⟩

abbrev HandlesTable (e : Event) (h : Host) : Prop :=
  Handles h.site.backend.transport.sessions.length h.service.sessions
    (step e h).2.service.sessions (deeds e h)

theorem removals_of_subset {before after : Host} (h : ∀ key, before.service.sessions.contains key →
    after.service.sessions.contains key) : removals before after = [] := by
  apply List.filter_eq_nil_iff.mpr
  intro key hkey
  rw [← Table.contains_iff_mem_keys] at hkey
  simp [h key hkey]

theorem removals_erase {before after : Host} {key : String} {n : Nat}
    (hn : before.service.sessions.get? key = some n)
    (hafter : after.service.sessions = before.service.sessions.erase key) :
    removals before after = [key] := by
  have hfilter : removals before after = before.service.sessions.keys.filter (· == key) := by
    apply List.filter_congr
    intro k hk
    rw [← Table.contains_iff_mem_keys] at hk
    rw [hafter, Table.contains_erase, hk]
    by_cases hkey : k = key <;> simp [hkey]
  have hmem : key ∈ before.service.sessions.keys :=
    (Table.contains_iff_mem_keys _ _).mp (by simp [Table.contains, hn])
  rw [hfilter, List.filter_beq, List.count_eq_one_of_mem (Table.keys_nodup _) hmem]
  rfl

theorem removals_clear {before after : Host} (hafter : after.service.sessions = ∅) :
    removals before after = before.service.sessions.keys := by
  apply List.filter_eq_self.mpr
  intro key _
  rw [hafter]
  rfl

theorem closeEach_length (entries : List (String × Nat)) (s : Site) :
    (closeEach entries s).1.length = entries.length := by
  induction entries generalizing s with
  | nil => rfl
  | cons entry rest ih => exact congrArg Nat.succ (ih _)

variable {h : Host} {ticket : Nat} {r : Receive}

/-- What holds of a receive that goes for its session: it comes or goes on at a host where the sessions are
those of before, and what it does later in the step changes no more of them. -/
structure Claims (e : Event) (h : Host) (ticket : Nat) (r : Receive) (h₁ : Host) : Prop where
  outstanding : h₁.service.receives.get? ticket = some r
  before : KeepsSessions h h₁
  after : KeepsSessions (acquire ticket r h₁).2 (step e h).2
  sound : h.Sound → h₁.Sound

theorem claimant_cases {e : Event} {h₁ : Host} (hc : claimant e h = some (ticket, r, h₁)) :
    (e = .poll ticket ∧ h₁ = h ∧ h.service.receives.get? ticket = some r ∧
      ∀ n w, r.stage ≠ .waiting n w) ∨
    ∃ queue group, (e = .start queue group ∨ e = .request (.receive queue group)) ∧
      enter queue group h = ((ticket, .ok r), h₁) := by
  have henter {queue group : String} (hc : (match enter queue group h with
      | ((_, .error _), _) => none
      | ((ticket, .ok r), h') => some (ticket, r, h')) = some (ticket, r, h₁)) :
      enter queue group h = ((ticket, .ok r), h₁) := by
    rcases he : enter queue group h with ⟨⟨j, error | q⟩, h'⟩
    · rw [he] at hc
      cases hc
    · rw [he] at hc
      cases hc
      rfl
  unfold claimant at hc
  split at hc
  · next j =>
    split at hc
    · cases hc
    · next q hq =>
      split at hc
      · cases hc
      · next hstage =>
        cases hc
        exact .inl ⟨rfl, rfl, hq, hstage⟩
  · next queue group => exact .inr ⟨queue, group, .inl rfl, henter hc⟩
  · next queue group => exact .inr ⟨queue, group, .inr rfl, henter hc⟩
  · cases hc

theorem claimant_poll (hr : h.service.receives.get? ticket = some r) (hstage : ∀ n w, r.stage ≠ .waiting n w) :
    claimant (.poll ticket) h = some (ticket, r, h) := by
  cases hs : r.stage with
  | waiting n w => exact absurd hs (hstage n w)
  | inLine | opening => simp [claimant, hr, hs]

theorem claimant_claims {e : Event} {h₁ : Host} (hc : claimant e h = some (ticket, r, h₁)) :
    Claims e h ticket r h₁ := by
  obtain ⟨rfl, rfl, hr, hstage⟩ | ⟨queue, group, hevent, henter⟩ := claimant_cases hc
  · refine ⟨hr, .refl _, ?_, id⟩
    rw [step_poll, poll_some hr]
    exact advance_keepsSessions ticket r _ hstage
  · have he := enter_enters queue group h
    rw [henter] at he
    have hstart : (start queue group h).2 = (advance ticket r h₁).2 := by
      rw [start_run, henter]
    have hadvance := advance_keepsSessions ticket r h₁ he.atLock
    rw [← hstart] at hadvance
    refine ⟨he.outstanding, he.keepsSessions, ?_, fun hs => hs.enters he⟩
    rcases hevent with rfl | rfl
    · exact hadvance
    · exact hadvance.trans (receive_keepsSessions queue group h)

theorem keepsSessions_of_unclaimed {e : Event} (hc : claimant e h = none) (he : e.attends = true) :
    KeepsSessions h (step e h).2 := by
  have hrefused {queue group : String} (hc : (match enter queue group h with
      | ((_, .error _), _) => none
      | ((ticket, .ok r), h') => some (ticket, r, h')) = none) :
      KeepsSessions h (start queue group h).2 := by
    have he := enter_enters queue group h
    rw [start_run]
    generalize enter queue group h = out at hc he ⊢
    rcases out with ⟨⟨ticket, error | r⟩, h₁⟩
    · exact he.keepsSessions
    · cases hc
  cases e with
  | poll ticket =>
      rw [step_poll]
      cases hr : h.service.receives.get? ticket with
      | none => simpa [poll_none hr] using KeepsSessions.refl h
      | some r =>
          cases hstage : r.stage with
          | waiting session wakeups =>
              rw [poll_some hr]
              exact (advance_advances ticket r h).keepsSessions_of_waiting hstage
          | inLine | opening => simp [claimant, hr, hstage] at hc
  | start queue group => exact hrefused hc
  | cancel ticket => exact cancel_keepsSessions ticket h
  | request q =>
      cases q with
      | receive queue group => exact (hrefused hc).trans (receive_keepsSessions queue group h)
      | createQueue | updateQueue | deleteQueue | lookupQueue | addGroup | updateGroup | deleteGroup
      | lookupGroup | getGroup | send | acknowledge | volume | audit | sessionCount | closeSession
      | shutdown => cases he
  | direct | condition => cases he

theorem acquisition_of_claimant {e : Event} {h₁ : Host} (hc : claimant e h = some (ticket, r, h₁)) :
    acquisition e h = some (r, (acquire ticket r h₁).1) := by
  rw [acquisition, hc]
  rfl

/-- The transport has exactly those sessions more after a step of the service that a receive is said to have
opened: one for the names of the receive, at the place that it is told, or none. -/
theorem step_constructs (e : Event) (h : Host) : constructed e h = match acquisition e h with
    | some (r, .opened n) => [(⟨r.queue, r.group, false⟩, n)]
    | _ => [] := by
  by_cases hdirect : ∃ d, e = .direct d
  · obtain ⟨d, rfl⟩ := hdirect
    rfl
  -- A direct call is not counted at all. Of all other events only those count in which a receive goes for
  -- its session, and there the sessions grow by what it acquires.
  have hrun : constructed e h =
      ((step e h).2.site.backend.transport.sessions.drop h.site.backend.transport.sessions.length).zipIdx
        h.site.backend.transport.sessions.length := by
    unfold constructed
    split
    · exact absurd ⟨_, rfl⟩ hdirect
    · rfl
  cases hc : claimant e h with
  | none =>
      have hcount : (step e h).2.site.backend.transport.sessions.length =
          h.site.backend.transport.sessions.length := by
        cases he : e.attends with
        | false => exact step_count he (fun d hd => hdirect ⟨d, hd⟩) h
        | true => rw [(keepsSessions_of_unclaimed hc he).transport]
      rw [hrun, acquisition, hc, List.drop_eq_nil_of_le (Nat.le_of_eq hcount)]
      rfl
  | some claim =>
      obtain ⟨ticket, r, h₁⟩ := claim
      have hclaims := claimant_claims hc
      have ha := acquire_acquires ticket r h₁
      have hgrows := ha.grows
      rw [hclaims.before.transport] at hgrows
      rw [hrun, acquisition_of_claimant hc, hclaims.after.transport, hgrows, List.drop_left]
      generalize acquire ticket r h₁ = out at ha ⊢
      rcases out with ⟨a, h₂⟩
      cases ha with
      | inLine | shut | found | refused => rfl
      | opened i s =>
          rw [hclaims.before.transport]
          rfl

/-- What the deeds say of openings is what the receive that goes for its session is told. -/
def acquired : Option (Receive × Acquisition) → List Deed
  | some (r, .opened n) => [.opened r.queue r.group n, .obtained r.queue r.group n]
  | some (r, .found n) => [.obtained r.queue r.group n]
  | _ => []

theorem deeds_eq (e : Event) (h : Host) : deeds e h = acquired (acquisition e h) ++
    (removals h (step e h).2).map .removed ++ (closings e h).map fun c => .closing c.1 c.2 := by
  unfold deeds
  rw [step_constructs]
  rcases acquisition e h with _ | ⟨r, _ | n | n | e⟩ <;> rfl

theorem mem_deeds_closing {e : Event} {session : Nat} {answer : Except CollaboratorError Unit} :
    .closing session answer ∈ deeds e h ↔ (session, answer) ∈ closings e h := by
  have hacquired (a : Option (Receive × Acquisition)) : .closing session answer ∉ acquired a := by
    rcases a with _ | ⟨r, _ | n | n | e⟩ <;> simp [acquired]
  simp [deeds_eq, hacquired]

theorem Acquires.handles {a : Acquisition} {h' : Host} (hs : h.Sound)
    (hr : h.service.receives.get? ticket = some r) (ha : Acquires ticket r h a h') :
    Handles h.site.backend.transport.sessions.length h.service.sessions h'.service.sessions
      (acquired (some (r, a))) := by
  obtain ⟨hqueue, hgroup⟩ := hs.service.named hr
  cases ha with
  | inLine | shut | refused => exact .kept rfl
  | found n _ _ hn => exact .found r.queue r.group n hqueue hgroup hn rfl
  | opened i s hmay => exact .opened r.queue r.group hqueue hgroup (hs.mayOpen hr hmay).2 rfl

theorem Acquires.subset {a : Acquisition} {h' : Host} (ha : Acquires ticket r h a h') (key : String)
    (hkey : h.service.sessions.contains key) : h'.service.sessions.contains key := by
  cases ha with
  | inLine | shut | found | refused => exact hkey
  | opened i s hmay =>
      unfold Table.contains at hkey ⊢
      rw [Table.get?_insert]
      split
      · rfl
      · exact hkey

theorem handles_of_unclaimed {e : Event} (hc : claimant e h = none) (hclose : closings e h = [])
    (htable : (step e h).2.service.sessions = h.service.sessions) : HandlesTable e h := by
  have hremovals : removals h (step e h).2 = [] := removals_of_subset fun key hkey => htable ▸ hkey
  unfold HandlesTable
  rw [deeds_eq, acquisition, hc, hclose, hremovals]
  exact .kept htable

theorem handles_of_claimant (hs : h.Sound) {e : Event} {h₁ : Host}
    (hc : claimant e h = some (ticket, r, h₁)) (hclose : closings e h = []) : HandlesTable e h := by
  have hclaims := claimant_claims hc
  have ha := acquire_acquires ticket r h₁
  -- Whoever goes for a session removes none.
  have hremovals : removals h (step e h).2 = [] := by
    apply removals_of_subset
    intro key hkey
    rw [hclaims.after.table]
    exact ha.subset key (hclaims.before.table ▸ hkey)
  unfold HandlesTable
  rw [deeds_eq, acquisition_of_claimant hc, hclose, hremovals, hclaims.after.table, ← hclaims.before.table,
    ← hclaims.before.transport]
  simpa using ha.handles (hclaims.sound hs) hclaims.outstanding

theorem attended_handles (hs : h.Sound) {e : Event} (he : e.attends = true) : HandlesTable e h := by
  have hclose : closings e h = [] := by
    unfold closings
    split
    · cases he
    · cases he
    · rfl
  cases hc : claimant e h with
  | none => exact handles_of_unclaimed hc hclose (keepsSessions_of_unclaimed hc he).table
  | some claim => exact handles_of_claimant hs hc hclose

theorem acquisition_cases {e : Event} {a : Acquisition} (hacq : acquisition e h = some (r, a)) :
    ∃ ticket h₁, claimant e h = some (ticket, r, h₁) ∧ a = (acquire ticket r h₁).1 := by
  obtain ⟨⟨ticket, q, h₁⟩, hc, hacq⟩ := Option.map_eq_some_iff.mp hacq
  obtain ⟨rfl, rfl⟩ := Prod.mk.inj hacq
  exact ⟨ticket, h₁, hc, rfl⟩

theorem closeSession_handles (queue group : String) (h : Host) :
    HandlesTable (.request (.closeSession queue group)) h := by
  have hc := closeSession_closes queue group h
  have hstep : (step (.request (.closeSession queue group)) h).2 = (closeSession queue group h).2 := rfl
  -- A close drops the session whether or not it succeeds.
  have hdrop {n : Nat} {answer : Except CollaboratorError Unit} {s s' : Site}
      (hn : h.service.sessions.get? (sessionKey queue group) = some n)
      (hfree : h.service.lock.owner = none) (hclose : closeNow n h.site = (answer, s))
      (hlast : (closeSession queue group h).2 = ⟨s', { h.service with
        sessions := h.service.sessions.erase (sessionKey queue group) }⟩) :
      HandlesTable (.request (.closeSession queue group)) h := by
    have hclosings : closings (.request (.closeSession queue group)) h = [(n, answer)] := by
      simp [closings, hfree, hn, hclose]
    have hafter : (step (.request (.closeSession queue group)) h).2.service.sessions =
        h.service.sessions.erase (sessionKey queue group) := by rw [hstep, hlast]
    unfold HandlesTable
    rw [deeds_eq, hclosings, removals_erase hn hafter, hafter]
    refine .dropped [sessionKey queue group] [(n, answer)] (fun key => ?_) (by simp [hn]) (by simp)
    simp [Table.get?_erase]
  rcases hrun : closeSession queue group h with ⟨answer, h'⟩
  rw [hrun] at hc
  cases hc with
  | busy howner =>
      refine handles_of_unclaimed rfl ?_ (by rw [hstep, hrun])
      simp [closings, Option.isSome_iff_ne_none.mpr howner]
  | absent hfree hn =>
      exact handles_of_unclaimed rfl (by simp [closings, hn]) (by rw [hstep, hrun])
  | failed n e s hfree hn hclose => exact hdrop hn hfree hclose (by rw [hrun])
  | closed n s t hfree hn hclose => exact hdrop hn hfree hclose (by rw [hrun])

theorem shutdown_handles (h : Host) : HandlesTable (.request .shutdown) h := by
  have hd := shutdown_shutsDown h
  have hstep : (step (.request .shutdown) h).2 = (shutdown h).2 := rfl
  rcases hrun : shutdown h with ⟨answer, h'⟩
  rw [hrun] at hd
  cases hd with
  | busy howner =>
      refine handles_of_unclaimed rfl ?_ (by rw [hstep, hrun])
      simp [closings, Option.isSome_iff_ne_none.mpr howner]
  | done answers s t hfree hclose =>
      have hafter : (step (.request .shutdown) h).2.service.sessions = ∅ := by rw [hstep, hrun]
      have hclosings : closings (.request .shutdown) h =
          (h.service.sessions.entries.map (·.2)).zip (answers.map (·.2)) := by
        simp [closings, hfree, hclose]
      have hlength : answers.length = h.service.sessions.entries.length := by
        have hl := closeEach_length h.service.sessions.entries h.site
        rw [hclose] at hl
        exact hl
      unfold HandlesTable
      rw [deeds_eq, hclosings, removals_clear hafter, hafter]
      refine .dropped h.service.sessions.keys _ (fun key => ?_) ?_ (Table.keys_nodup _)
      · split
        · rfl
        · next hkey =>
          rw [← Table.contains_iff_mem_keys, Table.contains, Option.not_isSome_iff_eq_none] at hkey
          rw [hkey]
          rfl
      · rw [Table.filterMap_get?_keys]
        exact List.map_fst_zip (by simp [hlength])

theorem step_handles (hs : h.Sound) (e : Event) :
    Handles h.site.backend.transport.sessions.length h.service.sessions
      (step e h).2.service.sessions (deeds e h) := by
  cases e with
  | poll | start | cancel => exact attended_handles hs rfl
  | direct | condition => exact handles_of_unclaimed rfl rfl rfl
  | request r =>
      cases r with
      | receive => exact attended_handles hs rfl
      | closeSession queue group => exact closeSession_handles queue group h
      | shutdown => exact shutdown_handles h
      | sessionCount =>
          apply handles_of_unclaimed rfl rfl
          change (sessionCount h).2.service.sessions = _
          rw [sessionCount_host]
      | createQueue | updateQueue | deleteQueue | lookupQueue | addGroup | updateGroup | deleteGroup
      | lookupGroup | getGroup | send | acknowledge | volume | audit => exact handles_of_unclaimed rfl rfl rfl

theorem Handles.names {count : Nat} {before after : NameMap Nat} {D : List Deed}
    (hD : Handles count before after D) {queue group : String} {n : Nat} (hmem : .opened queue group n ∈ D) :
    nameFault? queue = none ∧ nameFault? group = none := by
  cases hD with
  | kept | found | dropped => simp at hmem
  | opened q g hqueue hgroup =>
      obtain ⟨rfl, rfl, -⟩ : queue = q ∧ group = g ∧ n = count := by simpa using hmem
      exact ⟨hqueue, hgroup⟩

theorem Handles.new {count : Nat} {before after : NameMap Nat} {D : List Deed}
    (hD : Handles count before after D) {key : String} {n : Nat} (hn : after.get? key = some n) :
    before.get? key = some n ∨ ∃ queue group, key = sessionKey queue group ∧ .opened queue group n ∈ D := by
  cases hD with
  | kept hafter => exact .inl (hafter ▸ hn)
  | found _ _ _ _ _ _ hafter => exact .inl (hafter ▸ hn)
  | opened q g _ _ _ hafter =>
      rw [hafter, Table.get?_insert] at hn
      split at hn
      · next hkey =>
        cases hn
        exact .inr ⟨q, g, hkey, .head _⟩
      · exact .inl hn
  | dropped keys closes hkeys =>
      rw [hkeys] at hn
      split at hn
      · cases hn
      · exact .inl hn

theorem Handles.lost {count : Nat} {before after : NameMap Nat} {D : List Deed}
    (hD : Handles count before after D) {key : String} {n : Nat} (hn : before.get? key = some n) :
    after.get? key = some n ∨ ∃ answer, .closing n answer ∈ D := by
  cases hD with
  | kept hafter => exact .inl (hafter ▸ hn)
  | found _ _ _ _ _ _ hafter => exact .inl (hafter ▸ hn)
  | opened q g _ _ hnone hafter =>
      left
      rw [hafter, Table.get?_insert, if_neg]
      · exact hn
      · intro hkey
        rw [hkey, hnone] at hn
        cases hn
  | dropped keys closes hkeys hcloses =>
      by_cases hkey : key ∈ keys
      · obtain ⟨answer, hc⟩ := closing_of_removed hcloses hkey hn
        exact .inr ⟨answer, List.mem_append_right _ (List.mem_map.mpr ⟨_, hc, rfl⟩)⟩
      · exact .inl (by rw [hkeys, if_neg hkey, hn])

theorem acquisition_of_opened {e : Event} {queue group : String} {n : Nat}
    (hD : .opened queue group n ∈ deeds e h) :
    ∃ r, acquisition e h = some (r, .opened n) ∧ r.queue = queue ∧ r.group = group := by
  have hmem : Deed.opened queue group n ∈ acquired (acquisition e h) := by simpa [deeds_eq] using hD
  rcases hacq : acquisition e h with _ | ⟨r, _ | m | m | error⟩
  all_goals simp [hacq, acquired] at hmem
  obtain ⟨rfl, rfl, rfl⟩ := hmem
  exact ⟨r, rfl, rfl, rfl⟩

theorem acquire_brokers {n : Nat} (ha : (acquire ticket r h).1 = .opened n) :
    h.service.settings.brokers ≠ [] := by
  have hacquires := acquire_acquires ticket r h
  generalize acquire ticket r h = out at ha hacquires
  rcases out with ⟨a, h'⟩
  cases hacquires with
  | opened _ _ _ _ _ _ hbrokers => exact hbrokers
  | inLine | shut | found | refused => cases ha

theorem brokers_of_opened {e : Event} {queue group : String} {n : Nat}
    (hD : .opened queue group n ∈ deeds e h) : h.service.settings.brokers ≠ [] := by
  obtain ⟨r, hacq, -⟩ := acquisition_of_opened hD
  obtain ⟨ticket, h₁, hc, ha⟩ := acquisition_cases hacq
  have hbrokers := acquire_brokers ha.symm
  obtain ⟨-, rfl, -⟩ | ⟨queue, group, -, henter⟩ := claimant_cases hc
  · exact hbrokers
  · have he := enter_enters queue group h
    rw [henter] at he
    cases he
    exact hbrokers

end Host

end ManagedQueue
