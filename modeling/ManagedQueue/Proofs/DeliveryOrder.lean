import ManagedQueue.Proofs.Happenings

namespace ManagedQueue

/-- The queue's topic is neither made nor deleted in these happenings. -/
def Within (queue : String) (life : List Happening) : Prop :=
  ∀ x ∈ life, x ≠ .created queue ∧ x ≠ .deleted queue

def sentTo (queue : String) (H : List Happening) : List Payload :=
  H.filterMap fun
    | .sent q payload => if q = queue then some payload else none
    | _ => none

def receivedBy (queue group : String) (H : List Happening) : List Payload :=
  H.filterMap fun
    | .received q g payload => if q = queue ∧ g = group then some payload else none
    | _ => none

namespace Feed

variable {queue group : String} {s t u : Option (List Payload × Nat)} {H K life : List Happening}

theorem split (h : Feed queue group s (H ++ K) u) :
    ∃ t, Feed queue group s H t ∧ Feed queue group t K u := by
  induction H generalizing s with
  | nil => exact ⟨s, .done s, h⟩
  | cons x H ih =>
      cases h with
      | created h =>
          obtain ⟨t, hH, hK⟩ := ih h
          exact ⟨t, .created hH, hK⟩
      | deleted h =>
          obtain ⟨t, hH, hK⟩ := ih h
          exact ⟨t, .deleted hH, hK⟩
      | sent h =>
          obtain ⟨t, hH, hK⟩ := ih h
          exact ⟨t, .sent hH, hK⟩
      | received hp h =>
          obtain ⟨t, hH, hK⟩ := ih h
          exact ⟨t, .received hp hH, hK⟩
      | aside hx h =>
          obtain ⟨t, hH, hK⟩ := ih h
          exact ⟨t, .aside hx hH, hK⟩

theorem aside_sentTo {x : Happening} (hx : ¬ x.Concerns queue group) (H : List Happening) :
    sentTo queue (x :: H) = sentTo queue H := by
  cases x with
  | sent q payload => exact List.filterMap_cons_none (if_neg hx)
  | created | deleted | received => rfl

theorem aside_receivedBy {x : Happening} (hx : ¬ x.Concerns queue group) (H : List Happening) :
    receivedBy queue group (x :: H) = receivedBy queue group H := by
  cases x with
  | received q g payload => exact List.filterMap_cons_none (if_neg hx)
  | created | deleted | sent => rfl

/-- While the topic lives, what is sent is added to the log, and what is received is read off it from
the group's place on. -/
theorem life_of_some {log : List Payload} {n : Nat} (h : Feed queue group (some (log, n)) life t)
    (hlife : Within queue life) :
    t = some (log ++ sentTo queue life, n + (receivedBy queue group life).length) ∧
      receivedBy queue group life <+: (log ++ sentTo queue life).drop n := by
  generalize hs : some (log, n) = s at h
  -- On the run of the feed, with its log and offset free: a send lengthens the log at its end, a receive
  -- moves the offset past the entry that it answers.
  induction h generalizing log n with
  | done =>
      subst hs
      exact ⟨by simp [sentTo, receivedBy], List.nil_prefix⟩
  | created => cases hs
  | deleted => exact absurd rfl (hlife _ (.head _)).2
  | @sent log' m payload H t h ih =>
      cases hs
      obtain ⟨hend, hprefix⟩ := ih (fun x hx => hlife x (.tail _ hx)) rfl
      have hsent : sentTo queue (.sent queue payload :: H) = payload :: sentTo queue H := by
        simp [sentTo]
      have hreceived : receivedBy queue group (.sent queue payload :: H) = receivedBy queue group H := rfl
      rw [hsent, hreceived, List.append_cons]
      exact ⟨hend, hprefix⟩
  | @received log' m payload H t hp h ih =>
      cases hs
      obtain ⟨hend, hprefix⟩ := ih (fun x hx => hlife x (.tail _ hx)) rfl
      have hsent : sentTo queue (.received queue group payload :: H) = sentTo queue H := rfl
      have hreceived : receivedBy queue group (.received queue group payload :: H) =
          payload :: receivedBy queue group H := by
        simp [receivedBy]
      obtain ⟨hn, hpayload⟩ := List.getElem?_eq_some_iff.mp hp
      have hlength : m < (log' ++ sentTo queue H).length := by
        rw [List.length_append]
        omega
      have hdrop : (log' ++ sentTo queue H).drop m = payload :: (log' ++ sentTo queue H).drop (m + 1) := by
        rw [List.drop_eq_getElem_cons hlength, List.getElem_append_left hn, hpayload]
      rw [hsent, hreceived, hdrop]
      refine ⟨?_, List.cons_prefix_cons.mpr ⟨rfl, hprefix⟩⟩
      rw [hend, List.length_cons, Nat.add_assoc, Nat.add_comm 1]
  | aside hx h ih =>
      subst hs
      obtain ⟨hend, hprefix⟩ := ih (fun x hx => hlife x (.tail _ hx)) rfl
      rw [aside_sentTo hx, aside_receivedBy hx]
      exact ⟨hend, hprefix⟩

theorem born {before : List Happening} (h : Feed queue group s (before ++ .created queue :: life) t) :
    Feed queue group (some ([], 0)) life t := by
  obtain ⟨u, -, hlife⟩ := h.split
  cases hlife with
  | created hlife => exact hlife
  | aside hx => exact absurd rfl hx

theorem birth (h : Feed queue group s H t) (ht : t.isSome) :
    s.isSome ∧ Within queue H ∨
      ∃ before life, H = before ++ .created queue :: life ∧ Within queue life := by
  have hbefore {x : Happening} {H : List Happening}
      (h : ∃ before life, H = before ++ .created queue :: life ∧ Within queue life) :
      ∃ before life, x :: H = before ++ .created queue :: life ∧ Within queue life := by
    obtain ⟨before, life, rfl, hlife⟩ := h
    exact ⟨x :: before, life, rfl, hlife⟩
  have hwithin {x : Happening} {H : List Happening} (hx : x ≠ .created queue ∧ x ≠ .deleted queue)
      (hH : Within queue H) : Within queue (x :: H) := List.forall_mem_cons.mpr ⟨hx, hH⟩
  -- From the end backwards: the last creation that is followed by no deletion is the one looked for.
  induction h with
  | done => exact .inl ⟨ht, by simp [Within]⟩
  | @created H t h ih =>
      obtain ⟨-, hlife⟩ | hlater := ih ht
      · exact .inr ⟨[], H, rfl, hlife⟩
      · exact .inr (hbefore hlater)
  | deleted h ih =>
      obtain ⟨hnone, -⟩ | hlater := ih ht
      · cases hnone
      · exact .inr (hbefore hlater)
  | sent h ih =>
      obtain ⟨-, hlife⟩ | hlater := ih ht
      · exact .inl ⟨rfl, hwithin (by simp) hlife⟩
      · exact .inr (hbefore hlater)
  | received hp h ih =>
      obtain ⟨-, hlife⟩ | hlater := ih ht
      · exact .inl ⟨rfl, hwithin (by simp) hlife⟩
      · exact .inr (hbefore hlater)
  | @aside s x H t hx h ih =>
      obtain ⟨hs, hlife⟩ | hlater := ih ht
      · refine .inl ⟨hs, hwithin ⟨?_, ?_⟩ hlife⟩
        · rintro rfl
          exact hx rfl
        · rintro rfl
          exact hx rfl
      · exact .inr (hbefore hlater)

theorem none_of_within (h : Feed queue group none H t) (hH : Within queue H) : t = none := by
  apply Option.not_isSome_iff_eq_none.mp
  intro ht
  obtain ⟨hnone, -⟩ | ⟨before, life, rfl, -⟩ := h.birth ht
  · cases hnone
  · exact (hH (.created queue) (by simp)).1 rfl

theorem live_of_concerns {x : Happening} (h : Feed queue group s (x :: H) t)
    (hx : (∃ payload, x = .sent queue payload) ∨ ∃ payload, x = .received queue group payload) :
    s.isSome := by
  cases h with
  | created => simp at hx
  | deleted | sent | received => rfl
  | aside hnot =>
      rcases hx with ⟨payload, rfl⟩ | ⟨payload, rfl⟩
      · exact absurd rfl hnot
      · exact absurd ⟨rfl, rfl⟩ hnot

end Feed

namespace Backend

/-- What the group has not yet been given of a queue that has a topic. -/
def undelivered (b : Backend) (queue group : String) : Option (List Payload) :=
  (b.feed queue group).map fun f => f.1.drop f.2

theorem Evolves.undelivered {closes : Nat → Prop} {saved : Snapshot} {b c : Backend}
    {queue : String} {D : List Happening} (h : Evolves closes b D c) (hb : b.Numbered saved) (hmeasured : b.transport.Measured)
    (hlife : Within queue D) (group : String) :
    c.undelivered queue group = (b.undelivered queue group).map fun left =>
      (left ++ sentTo queue D).drop (receivedBy queue group D).length := by
  have hfeed := h.feed hb queue group fun hD => absurd rfl (hlife _ hD).1
  unfold Backend.undelivered
  cases hold : b.feed queue group with
  | none =>
      rw [hold] at hfeed
      rw [hfeed.none_of_within hlife]
      rfl
  | some f =>
      obtain ⟨log, n⟩ := f
      rw [hold] at hfeed
      have hn : n ≤ log.length := feed_le hmeasured hold
      rw [(hfeed.life_of_some hlife).1]
      simp only [Option.map_some]
      rw [← List.drop_drop, List.drop_append_of_le_length hn]

/-- What a group receives while a topic lives is what it had not been given and then what is sent. -/
theorem Evolves.receivedBy_prefix {closes : Nat → Prop} {saved : Snapshot} {b c : Backend}
    {queue group : String} {D : List Happening} {left : List Payload} (h : Evolves closes b D c)
    (hb : b.Numbered saved) (hmeasured : b.transport.Measured) (hlife : Within queue D)
    (hleft : b.undelivered queue group = some left) :
    receivedBy queue group D <+: left ++ sentTo queue D := by
  obtain ⟨⟨log, n⟩, hold, rfl⟩ := Option.map_eq_some_iff.mp hleft
  have hfeed := h.feed hb queue group fun hD => absurd rfl (hlife _ hD).1
  rw [hold] at hfeed
  have hn : n ≤ log.length := feed_le hmeasured hold
  have hprefix := (hfeed.life_of_some hlife).2
  rwa [List.drop_append_of_le_length hn] at hprefix

end Backend

namespace Host

theorem feed_isSome (h : Host) (queue group : String) :
    (h.site.backend.feed queue group).isSome = h.site.backend.registry.topics.contains queue := by
  rw [Backend.feed, Option.isSome_map, Registry.isSome_incarnation]

theorem pending_eq {s : Site} {queue group : String} {log : List Payload} {n : Nat}
    (h : s.backend.feed queue group = some (log, n)) : (Site.pending queue group s).1 = log.length - n := by
  unfold Backend.feed at h
  obtain ⟨hi, -⟩ | ⟨i, t, hi, hr, -⟩ := Site.pending_cases queue group s
  · rw [hi] at h
    cases h
  · rw [hi, Option.map_some, Option.some_inj, ← Transport.feed_bind,
      Transport.feed_of_bound (Transport.isStale_bind _ _ _)] at h
    rw [hr]
    change ((s.backend.transport.bind queue i).log queue).length -
      (s.backend.transport.bind queue i).offset queue group = _
    obtain ⟨hlog, hoffset⟩ := Prod.mk.inj h
    rw [hlog, hoffset]

theorem pending_undelivered (queue group : String) (s : Site) :
    (Site.pending queue group s).1 = ((s.backend.undelivered queue group).getD []).length := by
  unfold Backend.undelivered
  cases hfeed : s.backend.feed queue group with
  | none =>
      have hi : s.backend.registry.incarnation? queue = none := Option.map_eq_none_iff.mp hfeed
      obtain ⟨-, hr⟩ | ⟨i, t, hsome, -⟩ := Site.pending_cases queue group s
      · rw [hr]
        rfl
      · rw [hi] at hsome
        cases hsome
  | some f =>
      obtain ⟨log, place⟩ := f
      rw [pending_eq hfeed, Option.map_some, Option.getD_some, List.length_drop]

theorem chronicle_evolves (start : Host) (hs : start.Sound) (es : List Event) :
    Backend.Evolves (fun _ => True) start.site.backend (chronicle happenings es start)
      (steps es start).2.site.backend := by
  have hrun := chronicle_keep (f := happenings)
    (P := fun H h => h.Sound ∧ Backend.Evolves (fun _ => True) start.site.backend H h.site.backend)
    (fun _ _ e hP => ⟨hP.1.step e, hP.2.trans ((step_evolves hP.1 e).mono fun _ _ => trivial)⟩) es
    (H := []) (h := start) ⟨hs, .refl⟩
  exact hrun.2

theorem chronicle_feed (settings : Settings) (clock : Int64) (site : Site) (es : List Event)
    (queue group : String) :
    let start : Host := ⟨{ site with backend := .fresh clock }, { settings }⟩
    Feed queue group none (chronicle happenings es start)
      ((steps es start).2.site.backend.feed queue group) := by
  intro start
  have hfresh : start.site.backend.Numbered {} := Backend.restore_numbered {} clock
  exact (chronicle_evolves start (.start _ settings) es).feed hfresh queue group fun _ => ite_self _

/-- In every run from an empty backend, with any failures: while a topic lives, from its creation to
its deletion, each group receives a prefix of what is sent, and what is pending is the rest. Nothing
is sent or received at any other time. -/
theorem delivery_in_order (settings : Settings) (clock : Int64) (site : Site) (es : List Event) :
    let start : Host := ⟨{ site with backend := .fresh clock }, { settings }⟩
    let H := chronicle happenings es start
    let h := (steps es start).2
    (∀ queue group before life after, H = before ++ .created queue :: life ++ after →
      Within queue life → receivedBy queue group life <+: sentTo queue life) ∧
    (∀ queue group before life, H = before ++ .created queue :: life → Within queue life →
      (Site.pending queue group h.site).1 + (receivedBy queue group life).length =
        (sentTo queue life).length) ∧
    (∀ queue, h.site.backend.registry.topics.contains queue ↔
      ∃ before life, H = before ++ .created queue :: life ∧ Within queue life) ∧
    ∀ queue group before x after, H = before ++ x :: after →
      ((∃ payload, x = .sent queue payload) ∨ ∃ payload, x = .received queue group payload) →
      ∃ earlier life, before = earlier ++ .created queue :: life ∧ Within queue life := by
  intro start H h
  have hfeed (queue group : String) : Feed queue group none H (h.site.backend.feed queue group) :=
    chronicle_feed settings clock site es queue group
  refine ⟨fun queue group before life after hH hlife => ?_, fun queue group before life hH hlife => ?_,
    fun queue => ⟨fun hlive => ?_, ?_⟩, fun queue group before x after hH hx => ?_⟩
  -- The life may be cut short anywhere, so the run is split at its end first.
  · have hrun := hfeed queue group
    rw [hH] at hrun
    obtain ⟨t, hrun, -⟩ := hrun.split
    simpa using (hrun.born.life_of_some hlife).2
  · have hrun := hfeed queue group
    rw [hH] at hrun
    obtain ⟨hend, hprefix⟩ := hrun.born.life_of_some hlife
    have hlength := hprefix.length_le
    rw [pending_eq hend]
    simp only [List.nil_append, List.drop_zero, Nat.zero_add] at hlength ⊢
    omega
  · rw [← feed_isSome h queue ""] at hlive
    obtain ⟨hnone, -⟩ | hbirth := (hfeed queue "").birth hlive
    · cases hnone
    · exact hbirth
  · rintro ⟨before, life, hH, hlife⟩
    have hrun := hfeed queue ""
    rw [hH] at hrun
    rw [← feed_isSome h queue "", (hrun.born.life_of_some hlife).1]
    rfl
  · have hrun := hfeed queue group
    rw [hH] at hrun
    obtain ⟨t, hbefore, hrest⟩ := hrun.split
    obtain ⟨hnone, -⟩ | hbirth := hbefore.birth (hrest.live_of_concerns hx)
    · cases hnone
    · exact hbirth

end Host

end ManagedQueue
