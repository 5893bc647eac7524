import ManagedQueue.Proofs.ClosedSessions

namespace ManagedQueue

/-- Every session opened and not closed is the one in the table, so for each group there is at most
one, and it can still be closed. -/
def OneLive (H : List Deed) (h : Host) : Prop :=
  ∀ queue group n, .opened queue group n ∈ H → .closing n (.ok ()) ∉ H →
    h.service.sessions.get? (sessionKey queue group) = some n

/-- What was done to the sessions and the table account for each other. -/
structure Accounts (H : List Deed) (h : Host) : Prop where
  sound : h.Sound
  opened : ∀ {queue group n}, .opened queue group n ∈ H →
    n < h.site.backend.transport.sessions.length ∧
      (h.service.sessions.get? (sessionKey queue group) = some n ∨ ∃ answer, .closing n answer ∈ H)
  cached : ∀ {key n}, h.service.sessions.get? key = some n →
    (∃ queue group, .opened queue group n ∈ H) ∧ ∀ answer, .closing n answer ∉ H
  closing : ∀ {n answer}, .closing n answer ∈ H →
    (∃ queue group, .opened queue group n ∈ H) ∧ ∀ {other}, .closing n other ∈ H → other = answer

namespace Accounts

open Host

variable {H D : List Deed} {h h' : Host}

theorem start (settings : Settings) (site : Site) : Accounts [] ⟨site, { settings }⟩ where
  sound := .start site settings
  opened ho := by simp at ho
  cached hn := by simp at hn
  closing hc := by simp at hc

theorem kept (ha : Accounts H h) (hs : h'.Sound)
    (hlength : h.site.backend.transport.sessions.length ≤ h'.site.backend.transport.sessions.length)
    (hsessions : h'.service.sessions = h.service.sessions)
    (hopened : ∀ queue group n, .opened queue group n ∉ D) (hclosing : ∀ n answer, .closing n answer ∉ D) :
    Accounts (H ++ D) h' where
  sound := hs
  opened ho := by
    obtain ⟨hn, hnow⟩ := ha.opened ((List.mem_append.mp ho).resolve_right (hopened _ _ _))
    refine ⟨Nat.lt_of_lt_of_le hn hlength, ?_⟩
    rw [hsessions]
    exact hnow.imp_right fun ⟨answer, hc⟩ => ⟨answer, List.mem_append_left _ hc⟩
  cached hn := by
    rw [hsessions] at hn
    obtain ⟨⟨queue, group, ho⟩, hc⟩ := ha.cached hn
    exact ⟨⟨queue, group, List.mem_append_left _ ho⟩,
      fun answer hmem => (List.mem_append.mp hmem).elim (hc answer) (hclosing _ _)⟩
  closing hc := by
    obtain ⟨⟨queue, group, ho⟩, hone⟩ := ha.closing ((List.mem_append.mp hc).resolve_right (hclosing _ _))
    exact ⟨⟨queue, group, List.mem_append_left _ ho⟩,
      fun hother => hone ((List.mem_append.mp hother).resolve_right (hclosing _ _))⟩

theorem opens (ha : Accounts H h) (hs : h'.Sound)
    (hlength : h.site.backend.transport.sessions.length ≤ h'.site.backend.transport.sessions.length)
    {queue group : String} {n : Nat} (hcount : h.site.backend.transport.sessions.length = n)
    (hnone : h.service.sessions.get? (sessionKey queue group) = none)
    (hsessions : h'.service.sessions = h.service.sessions.insert (sessionKey queue group) n) :
    Accounts (H ++ [.opened queue group n, .obtained queue group n]) h' where
  sound := hs
  opened {queue' group' m} ho := by
    rw [hsessions, Table.get?_insert]
    have hmem : .opened queue' group' m ∈ H ∨ (queue' = queue ∧ group' = group ∧ m = n) := by
      simpa using ho
    rcases hmem with ho | ⟨rfl, rfl, rfl⟩
    · obtain ⟨hm, hnow⟩ := ha.opened ho
      refine ⟨Nat.lt_of_lt_of_le hm hlength, ?_⟩
      rcases hnow with hcached | ⟨answer, hc⟩
      · left
        rw [if_neg]
        · exact hcached
        · intro hkey
          rw [hkey, hnone] at hcached
          cases hcached
      · exact .inr ⟨answer, List.mem_append_left _ hc⟩
    · have hnew : h'.service.sessions.get? (sessionKey queue' group') = some m := by
        rw [hsessions, Table.get?_insert_self]
      exact ⟨hs.cached_lt hnew, .inl (by simp)⟩
  cached {key m} hm := by
    rw [hsessions, Table.get?_insert] at hm
    split at hm
    · cases hm
      refine ⟨⟨queue, group, by simp⟩, fun answer hc => ?_⟩
      have hc : .closing n answer ∈ H := by simpa using hc
      -- The session has the next number, so no earlier close can have been one of it.
      obtain ⟨⟨q, g, ho⟩, -⟩ := ha.closing hc
      exact absurd (ha.opened ho).1 (by omega)
    · obtain ⟨⟨q, g, ho⟩, hc⟩ := ha.cached hm
      exact ⟨⟨q, g, List.mem_append_left _ ho⟩, fun answer hmem => hc answer (by simpa using hmem)⟩
  closing {m answer} hc := by
    have hc : .closing m answer ∈ H := by simpa using hc
    obtain ⟨⟨q, g, ho⟩, hone⟩ := ha.closing hc
    exact ⟨⟨q, g, List.mem_append_left _ ho⟩, fun hother => hone (by simpa using hother)⟩

theorem drops (ha : Accounts H h) (hs : h'.Sound)
    (hlength : h.site.backend.transport.sessions.length ≤ h'.site.backend.transport.sessions.length)
    {keys : List String} {closes : List (Nat × Except CollaboratorError Unit)}
    (hkeys : ∀ key, h'.service.sessions.get? key =
      if key ∈ keys then none else h.service.sessions.get? key)
    (hcloses : closes.map (·.1) = keys.filterMap h.service.sessions.get?) (hnodup : keys.Nodup) :
    Accounts (H ++ (keys.map .removed ++ closes.map fun c => .closing c.1 c.2)) h' := by
  have hopened {queue group n} (ho : Deed.opened queue group n ∈
      H ++ (keys.map .removed ++ closes.map fun c => .closing c.1 c.2)) : .opened queue group n ∈ H := by
    simpa using ho
  have hclosing {n answer} (hc : Deed.closing n answer ∈
      H ++ (keys.map .removed ++ closes.map fun c => .closing c.1 c.2)) :
      .closing n answer ∈ H ∨ (n, answer) ∈ closes := by
    simpa using hc
  -- Exactly the sessions under the removed keys are closed, each of them once.
  have hclosed {n answer} (hc : (n, answer) ∈ closes) :
      ∃ key ∈ keys, h.service.sessions.get? key = some n := by
    have hmem : n ∈ closes.map (·.1) := List.mem_map.mpr ⟨_, hc, rfl⟩
    rw [hcloses] at hmem
    exact List.mem_filterMap.mp hmem
  have honce : (closes.map (·.1)).Nodup := by
    rw [hcloses]
    exact hnodup.filterMap fun _ _ _ hn hn' => ha.sound.cached_inj hn hn'
  -- None of them was closed before, since each was still cached.
  have hnew {n answer} (hc : (n, answer) ∈ closes) : ∀ other, .closing n other ∉ H := by
    obtain ⟨key, -, hn⟩ := hclosed hc
    exact (ha.cached hn).2
  constructor
  · exact hs
  · intro queue group n ho
    obtain ⟨hn, hnow⟩ := ha.opened (hopened ho)
    refine ⟨Nat.lt_of_lt_of_le hn hlength, ?_⟩
    rcases hnow with hcached | ⟨answer, hc⟩
    · by_cases hkey : sessionKey queue group ∈ keys
      · obtain ⟨answer, hc⟩ := closing_of_removed hcloses hkey hcached
        exact .inr ⟨answer, by simp [hc]⟩
      · exact .inl (by rw [hkeys, if_neg hkey, hcached])
    · exact .inr ⟨answer, List.mem_append_left _ hc⟩
  · intro key n hn
    rw [hkeys] at hn
    split at hn
    · cases hn
    · next hkey =>
      obtain ⟨⟨queue, group, ho⟩, hc⟩ := ha.cached hn
      refine ⟨⟨queue, group, List.mem_append_left _ ho⟩, fun answer hmem => ?_⟩
      rcases hclosing hmem with hmem | hmem
      · exact hc answer hmem
      · obtain ⟨key', hkey', hn'⟩ := hclosed hmem
        exact hkey (ha.sound.cached_inj hn hn' ▸ hkey')
  · intro n answer hc
    rcases hclosing hc with hc | hc
    · obtain ⟨⟨queue, group, ho⟩, hone⟩ := ha.closing hc
      refine ⟨⟨queue, group, List.mem_append_left _ ho⟩, fun {other} hother => ?_⟩
      rcases hclosing hother with hother | hother
      · exact hone hother
      · exact absurd hc (hnew hother answer)
    · obtain ⟨key, -, hn⟩ := hclosed hc
      obtain ⟨⟨queue, group, ho⟩, -⟩ := ha.cached hn
      refine ⟨⟨queue, group, List.mem_append_left _ ho⟩, fun {other} hother => ?_⟩
      rcases hclosing hother with hother | hother
      · exact absurd hother (hnew hc other)
      · exact congrArg Prod.snd (List.inj_on_of_nodup_map honce hother hc rfl)

theorem step (ha : Accounts H h) (e : Event) : Accounts (H ++ deeds e h) (Host.step e h).2 := by
  have hs := ha.sound.step e
  have hlength := (step_extends e h).length_le
  have hh := step_handles ha.sound e
  generalize deeds e h = D at hh ⊢
  generalize (Host.step e h).2 = h' at hs hlength hh ⊢
  generalize hcount : h.site.backend.transport.sessions.length = count at hh
  generalize hafter : h'.service.sessions = after at hh
  cases hh with
  | kept hsessions => exact ha.kept hs hlength (hafter.trans hsessions) (by simp) (by simp)
  | found queue group n _ _ _ hsessions =>
      exact ha.kept hs hlength (hafter.trans hsessions) (by simp) (by simp)
  | opened queue group _ _ hnone hsessions => exact ha.opens hs hlength hcount hnone (hafter.trans hsessions)
  | dropped keys closes hkeys hcloses hnodup =>
      exact ha.drops hs hlength (by rw [hafter]; exact hkeys) hcloses hnodup

theorem chronicle (settings : Settings) (site : Site) (es : List Event) :
    Accounts (Host.chronicle deeds es ⟨site, { settings }⟩) (steps es ⟨site, { settings }⟩).2 := by
  have hrun := chronicle_keep (f := deeds) (P := Accounts) (fun _ _ e ha => ha.step e) es
    (start settings site)
  exact hrun

end Accounts

namespace Host

theorem chronicle_closed (settings : Settings) (site : Site) (es : List Event) {n : Nat}
    (hc : .closing n (.ok ()) ∈ chronicle deeds es ⟨site, { settings }⟩) :
    (steps es ⟨site, { settings }⟩).2.Closed n := by
  have hrun := chronicle_keep (f := deeds)
    (P := fun H h => h.Sound ∧ ∀ n, .closing n (.ok ()) ∈ H → h.Closed n)
    (fun H h e hP => ⟨hP.1.step e, fun n hmem => ?_⟩) es (H := []) ⟨.start site settings, by simp⟩
  · exact hrun.2 n hc
  · rcases List.mem_append.mp hmem with hmem | hmem
    · exact (hP.2 n hmem).extends (step_extends e h)
    · exact closings_closed hP.1 (mem_deeds_closing.mp hmem)

/-- The table has every session that is not closed exactly as long as no closing has failed. What a
failed closing leaves is never in the table again, and nothing closes it; what a closing that succeeds
leaves is closed. -/
theorem one_live_session_iff (settings : Settings) (site : Site) (es : List Event) :
    let H := chronicle deeds es ⟨site, { settings }⟩
    let h := (steps es ⟨site, { settings }⟩).2
    (OneLive H h ↔ ∀ n e, .closing n (.error e) ∉ H) ∧
      (∀ n e, .closing n (.error e) ∈ H →
        .closing n (.ok ()) ∉ H ∧ ∀ key, h.service.sessions.get? key ≠ some n) ∧
      ∀ n, .closing n (.ok ()) ∈ H → h.Closed n := by
  intro H h
  have ha : Accounts H h := Accounts.chronicle settings site es
  -- A close is tried once a session, on removing it from the table, so a failed one is the last.
  have hlost (n : Nat) (e : CollaboratorError) (hc : .closing n (.error e) ∈ H) :
      .closing n (.ok ()) ∉ H ∧ ∀ key, h.service.sessions.get? key ≠ some n := by
    refine ⟨fun hok => ?_, fun key hn => (ha.cached hn).2 _ hc⟩
    cases (ha.closing hc).2 hok
  refine ⟨⟨fun hone n e hc => ?_, fun hnone queue group n ho hc => ?_⟩, hlost,
    fun n hc => chronicle_closed settings site es hc⟩
  · obtain ⟨hok, hgone⟩ := hlost n e hc
    obtain ⟨queue, group, ho⟩ := (ha.closing hc).1
    exact hgone _ (hone queue group n ho hok)
  · obtain ⟨-, hcached | ⟨answer, hmem⟩⟩ := ha.opened ho
    · exact hcached
    · cases answer with
      | error e => exact absurd hmem (hnone n e)
      | ok => exact absurd hmem hc

/-- After a closing that fails a second session is opened beside the first. -/
example : chronicle deeds [.request (.createQueue "q"), .start "q" "g",
      .condition (.fault .close ⟨⟨.unavailable, "down"⟩, 0, none⟩),
      .request (.closeSession "q" "g"), .start "q" "g"]
      ⟨{}, { settings := ⟨["broker"], "registry", 1, 1⟩ }⟩ =
    [.opened "q" "g" 0, .obtained "q" "g" 0, .removed "q@g",
      .closing 0 (.error ⟨.unavailable, "down"⟩), .opened "q" "g" 1, .obtained "q" "g" 1] := by
  rfl

end Host

end ManagedQueue
