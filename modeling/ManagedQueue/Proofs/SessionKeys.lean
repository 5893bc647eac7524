import ManagedQueue.Proofs.ClosedSessions

namespace ManagedQueue

namespace Transport

variable {t : Transport} {session other : Nat} {queue group : String}

theorem Reads.unique {queue' group' : String} (h : t.Reads session queue group) (k : t.Reads session queue' group') :
    queue' = queue ∧ group' = group := by
  obtain ⟨c, hc, rfl, rfl⟩ := h
  obtain ⟨d, hd, rfl, rfl⟩ := k
  obtain rfl : c = d := Option.some.inj (hc.symm.trans hd)
  exact ⟨rfl, rfl⟩

theorem Reads.closed_closeSession (h : t.Reads session queue group) (other : Nat) :
    (t.closeSession session).Closed other ↔ t.Closed other ∨ other = session := by
  by_cases hother : other = session
  · subst hother
    exact iff_of_true h.closeSession (.inr rfl)
  · have hsame : (t.closeSession session).sessions[other]? = t.sessions[other]? :=
      List.getElem?_modify_ne _ _ (Ne.symm hother)
    simp [Closed, hsame, hother]

end Transport

namespace Host

variable {H : List Deed} {h : Host} {queue group : String} {n : Nat}

/-- The session is in the table, under some key. -/
def Keeps (h : Host) (n : Nat) : Prop := ∃ key, h.service.sessions.get? key = some n

/-- What the service has opened so far it has opened for valid names, and the table has it under them. -/
structure Named (H : List Deed) (h : Host) : Prop where
  sound : h.Sound
  opened : ∀ {queue group n}, .opened queue group n ∈ H →
    nameFault? queue = none ∧ nameFault? group = none ∧ h.site.backend.transport.Reads n queue group
  cached : ∀ {key n}, h.service.sessions.get? key = some n →
    ∃ queue group, key = sessionKey queue group ∧ .opened queue group n ∈ H

namespace Named

theorem opens (hs : h.Sound) {e : Event} (hopened : .opened queue group n ∈ deeds e h) :
    nameFault? queue = none ∧ nameFault? group = none ∧
      (step e h).2.site.backend.transport.Reads n queue group := by
  have hh := step_handles hs e
  have hnext := hs.step e
  obtain ⟨hqueue, hgroup⟩ := hh.names hopened
  have hcached : (step e h).2.service.sessions.get? (sessionKey queue group) = some n := by
    generalize deeds e h = D at hh hopened
    cases hh with
    | kept | found | dropped => simp at hopened
    | opened q g _ _ _ hafter =>
        obtain ⟨rfl, rfl, rfl⟩ : queue = q ∧ group = g ∧ n = _ := by simpa using hopened
        rw [hafter, Table.get?_insert_self]
  obtain ⟨q, g, hkey, -, -, hreads⟩ := hnext.cached hcached
  obtain ⟨rfl, rfl⟩ := sessionKey_inj hqueue hgroup hkey
  exact ⟨hqueue, hgroup, hreads⟩

theorem step (hn : Named H h) (e : Event) : Named (H ++ deeds e h) (Host.step e h).2 where
  sound := hn.sound.step e
  opened hopened := by
    rcases List.mem_append.mp hopened with hopened | hopened
    · obtain ⟨hqueue, hgroup, hreads⟩ := hn.opened hopened
      exact ⟨hqueue, hgroup, hreads.extends (step_extends e h)⟩
    · exact opens hn.sound hopened
  cached hcached := by
    rcases (step_handles hn.sound e).new hcached with hbefore | ⟨queue, group, hkey, hopened⟩
    · obtain ⟨queue, group, hkey, hopened⟩ := hn.cached hbefore
      exact ⟨queue, group, hkey, List.mem_append_left _ hopened⟩
    · exact ⟨queue, group, hkey, List.mem_append_right _ hopened⟩

theorem chronicle (settings : Settings) (site : Site) (es : List Event) :
    Named (Host.chronicle deeds es ⟨site, { settings }⟩) (steps es ⟨site, { settings }⟩).2 := by
  have hstart : Named [] ⟨site, { settings }⟩ := ⟨.start site settings, by simp, by simp⟩
  have hrun := chronicle_keep (f := deeds) (P := Named) (fun _ _ e hn => hn.step e) es hstart
  exact hrun

/-- Any two texts lead to a session of the table exactly if it was opened for them. -/
theorem cached_iff (hn : Named H h) : h.service.sessions.get? (sessionKey queue group) = some n ↔
    h.Keeps n ∧ .opened queue group n ∈ H := by
  constructor
  · intro hcached
    obtain ⟨q, g, hkey, hopened⟩ := hn.cached hcached
    obtain ⟨hqueue, hgroup, -⟩ := hn.opened hopened
    obtain ⟨rfl, rfl⟩ := sessionKey_inj hqueue hgroup hkey.symm
    exact ⟨⟨_, hcached⟩, hopened⟩
  · rintro ⟨⟨key, hcached⟩, hopened⟩
    obtain ⟨q, g, rfl, hfirst⟩ := hn.cached hcached
    obtain ⟨-, -, hreads⟩ := hn.opened hopened
    obtain ⟨-, -, hsame⟩ := hn.opened hfirst
    obtain ⟨rfl, rfl⟩ := hreads.unique hsame
    exact hcached

end Named

theorem Sound.keeps_erase (hs : h.Sound) {key : String} (hn : h.service.sessions.get? key = some n) {s : Site}
    (m : Nat) : Keeps ⟨s, { h.service with sessions := h.service.sessions.erase key }⟩ m ↔ h.Keeps m ∧ m ≠ n := by
  constructor
  · rintro ⟨k, hk⟩
    rw [Table.get?_erase] at hk
    split at hk
    · cases hk
    · next hkey =>
      refine ⟨⟨k, hk⟩, ?_⟩
      rintro rfl
      exact hkey (hs.cached_inj hk hn)
  · rintro ⟨⟨k, hk⟩, hm⟩
    refine ⟨k, ?_⟩
    rw [Table.get?_erase, if_neg]
    · exact hk
    · rintro rfl
      exact hm (Option.some.inj (hk.symm.trans hn))

/-- Only the session is gone from the table, and only it is closed, unless its closing is to fail. -/
structure Ends (h : Host) (queue group : String) (n : Nat) (reply : Reply) (h' : Host) : Prop where
  keeps : ∀ m, h'.Keeps m ↔ h.Keeps m ∧ m ≠ n
  closed : h.site.struck .close = none → reply = .outcome (.ready (.ok (.closed true))) ∧
    ∀ m, h'.Closed m ↔ h.Closed m ∨ m = n
  failed : ∀ e, h.site.struck .close = some e →
    reply = .outcome (.ready (.error (.collaborator "CloseSession" queue (some group) e))) ∧
      ∀ m, h'.Closed m ↔ h.Closed m

theorem closeSession_busy (howner : h.service.lock.owner ≠ none) (queue group : String) :
    closeSession queue group h = (.pending, h) := by
  have hc := closeSession_closes queue group h
  rcases hrun : closeSession queue group h with ⟨answer, h'⟩
  rw [hrun] at hc
  cases hc with
  | busy => rfl
  | absent hfree | failed _ _ _ hfree | closed _ _ _ hfree => exact absurd hfree howner

theorem closeSession_absent (hfree : h.service.lock.owner = none)
    (hnone : h.service.sessions.get? (sessionKey queue group) = none) :
    closeSession queue group h = (.ready (.ok false), h) := by
  have hc := closeSession_closes queue group h
  rcases hrun : closeSession queue group h with ⟨answer, h'⟩
  rw [hrun] at hc
  cases hc with
  | busy howner => exact absurd hfree howner
  | absent => rfl
  | failed _ _ _ _ hn | closed _ _ _ _ hn =>
      rw [hnone] at hn
      cases hn

theorem closeSession_ends (hs : h.Sound) (hfree : h.service.lock.owner = none)
    (hn : h.service.sessions.get? (sessionKey queue group) = some n) :
    Ends h queue group n (step (.request (.closeSession queue group)) h).1
      (step (.request (.closeSession queue group)) h).2 := by
  have hc := closeSession_closes queue group h
  obtain ⟨q, g, hreads⟩ := hs.cached_reads hn
  have hcases := Site.closeNow_cases n h.site
  rw [step_close]
  generalize closeSession queue group h = out at hc ⊢
  rcases out with ⟨answer, h'⟩
  cases hc with
  | busy howner => exact absurd hfree howner
  | absent _ hnone =>
      rw [hn] at hnone
      cases hnone
  | failed m e s _ hm hclose =>
      obtain rfl : n = m := Option.some.inj (hn.symm.trans hm)
      rw [hclose] at hcases
      obtain ⟨e', hstruck, hrun⟩ | ⟨-, hrun⟩ := hcases
      · cases hrun
        refine ⟨hs.keeps_erase hn, fun hnone => ?_, fun e' he => ?_⟩
        · rw [hstruck] at hnone
          cases hnone
        · obtain rfl : e = e' := Option.some.inj (hstruck.symm.trans he)
          exact ⟨rfl, fun m => Iff.rfl⟩
      · cases hrun
  | closed m s t _ hm hclose ht =>
      obtain rfl : n = m := Option.some.inj (hn.symm.trans hm)
      rw [hclose] at hcases
      obtain ⟨e, -, hrun⟩ | ⟨hstruck, hrun⟩ := hcases
      · cases hrun
      · cases hrun
        have htransport : t.backend.transport = h.site.backend.transport.closeSession n := ht.transport
        refine ⟨hs.keeps_erase hn, fun _ => ⟨rfl, fun m => ?_⟩, fun e he => ?_⟩
        · change t.backend.transport.Closed m ↔ _
          rw [htransport]
          exact hreads.closed_closeSession m
        · rw [hstruck] at he
          cases he

/-- In every run of a service: a session in the table was opened for the two names of its key, and for no
others, and no other two texts make this key; different pairs, of which one is valid, share neither a key
nor a session. A closing that need not wait for the lock ends the session in the table that was opened
for exactly the two texts, and only that one. If there is none it changes nothing. -/
theorem sessions_known_by_names (settings : Settings) (site : Site) (es : List Event) :
    let H := chronicle deeds es ⟨site, { settings }⟩
    let h := (steps es ⟨site, { settings }⟩).2
    (∀ key n, h.service.sessions.get? key = some n → ∃ queue group, key = sessionKey queue group ∧
      .opened queue group n ∈ H ∧ h.site.backend.transport.Reads n queue group ∧
      ∀ q g, key = sessionKey q g ∨ .opened q g n ∈ H → q = queue ∧ g = group) ∧
    (∀ queue group queue' group', nameFault? queue = none → nameFault? group = none →
      (queue, group) ≠ (queue', group') → sessionKey queue group ≠ sessionKey queue' group' ∧
        ∀ n, h.service.sessions.get? (sessionKey queue group) = some n →
          h.service.sessions.get? (sessionKey queue' group') ≠ some n) ∧
    ∀ queue group, let r := step (.request (.closeSession queue group)) h
      (h.service.lock.owner ≠ none → r = (.outcome .pending, h)) ∧
      (h.service.lock.owner = none →
        ((∀ n, h.Keeps n → .opened queue group n ∉ H) → r = (.outcome (.ready (.ok (.closed false))), h)) ∧
        ∀ n, h.Keeps n → .opened queue group n ∈ H → Ends h queue group n r.1 r.2) := by
  intro H h
  have hn : Named H h := Named.chronicle settings site es
  refine ⟨fun key n hcached => ?_, fun queue group queue' group' hqueue hgroup hne => ?_,
    fun queue group => ⟨fun howner => ?_, fun hfree => ⟨fun hnone => ?_, fun n hkeeps hopened => ?_⟩⟩⟩
  · obtain ⟨queue, group, rfl, hopened⟩ := hn.cached hcached
    obtain ⟨hqueue, hgroup, hreads⟩ := hn.opened hopened
    refine ⟨queue, group, rfl, hopened, hreads, fun q g hqg => ?_⟩
    rcases hqg with hkey | hother
    · obtain ⟨rfl, rfl⟩ := sessionKey_inj hqueue hgroup hkey
      exact ⟨rfl, rfl⟩
    · exact hreads.unique (hn.opened hother).2.2
  · have hkey : sessionKey queue group ≠ sessionKey queue' group' := by
      intro hkey
      obtain ⟨rfl, rfl⟩ := sessionKey_inj hqueue hgroup hkey
      exact hne rfl
    exact ⟨hkey, fun n hcached hother => hkey (hn.sound.cached_inj hcached hother)⟩
  · rw [step_close, closeSession_busy howner]
    rfl
  -- Whatever the table keeps was opened for its key, so an unopened key is not in it.
  · have habsent : h.service.sessions.get? (sessionKey queue group) = none := by
      rw [Option.eq_none_iff_forall_ne_some]
      intro n hcached
      obtain ⟨hkeeps, hopened⟩ := hn.cached_iff.mp hcached
      exact hnone n hkeeps hopened
    rw [step_close, closeSession_absent hfree habsent]
    rfl
  · exact closeSession_ends hn.sound hfree (hn.cached_iff.mpr ⟨hkeeps, hopened⟩)

end Host

end ManagedQueue
