import ManagedQueue.Proofs.Recreation

namespace ManagedQueue

namespace Feed

variable {queue group : String} {s t u : Option (List Payload × Nat)} {H : List Happening}

/-- What a group is fed at the end follows from what it was fed before and from what has happened. -/
theorem unique (h : Feed queue group s H t) (k : Feed queue group s H u) : u = t := by
  -- The happenings decide which rule applies, at each of them.
  induction h with
  | done => exact k.eq_of_nil
  | created _ ih =>
      cases k with
      | created k => exact ih k
      | aside hx => exact absurd rfl hx
  | deleted _ ih =>
      cases k with
      | deleted k => exact ih k
      | aside hx => exact absurd rfl hx
  | sent _ ih =>
      cases k with
      | sent k => exact ih k
      | aside hx => exact absurd rfl hx
  | received _ _ ih =>
      cases k with
      | received _ k => exact ih k
      | aside hx => exact absurd ⟨rfl, rfl⟩ hx
  | aside hx _ ih =>
      cases k with
      | created | deleted | sent => exact absurd rfl hx
      | received => exact absurd ⟨rfl, rfl⟩ hx
      | aside _ k => exact ih k

def place (s : Option (List Payload × Nat)) : Nat := (s.map (·.2)).getD 0

theorem place_le (h : Feed queue group s H t) : place t ≤ place s + (receivedBy queue group H).length := by
  induction h with
  | done => exact Nat.le_add_right _ _
  | created _ ih => exact ih
  | deleted _ ih => exact Nat.le_trans ih (Nat.add_le_add_right (Nat.zero_le _) _)
  | sent _ ih => exact ih
  | @received log n payload H t _ _ ih =>
      have hreceived : receivedBy queue group (.received queue group payload :: H) =
          payload :: receivedBy queue group H := by
        simp [receivedBy]
      have hbefore : place (some (log, n)) = n := rfl
      have hnext : place (some (log, n + 1)) = n + 1 := rfl
      rw [hreceived, List.length_cons]
      omega
  | aside hx _ ih =>
      rw [aside_receivedBy hx]
      exact ih

end Feed

namespace Backend

variable {closes : Nat → Prop} {b c : Backend} {D : List Happening} {queue : String} {i : Nat}

/-- No queue with a topic is bound to an earlier one. -/
def Settled (b : Backend) : Prop :=
  ∀ ⦃queue i⦄, b.registry.incarnation? queue = some i → b.transport.isStale queue i = false

/-- No queue is bound to a topic that is gone. -/
def Current (b : Backend) : Prop :=
  ∀ ⦃queue i⦄, b.transport.bindings.get? queue = some i → b.registry.incarnation? queue = some i

theorem Current.settled (hb : b.Current) : b.Settled := by
  intro queue i hi
  cases hbound : b.transport.bindings.get? queue with
  | none => exact Transport.isStale_of_unbound hbound i
  | some j =>
      have hj := hb hbound
      rw [hi] at hj
      cases hj
      simp [Transport.isStale, hbound]

theorem Current.touches (hb : b.Current) (hi : b.registry.incarnation? queue = some i) {u : Transport}
    (h : Transport.Touches queue i b.transport u) : Current { b with transport := u } := by
  intro q j hj
  by_cases hq : q = queue
  · subst hq
    rw [h.bound] at hj
    cases hj
    exact hi
  · rw [(h.others hq).binding] at hj
    exact hb hj

theorem Settled.touches (hb : b.Settled) (hi : b.registry.incarnation? queue = some i) {u : Transport}
    (h : Transport.Touches queue i b.transport u) : Settled { b with transport := u } := by
  intro q j hj
  by_cases hq : q = queue
  · subst hq
    have hsame : some i = some j := hi.symm.trans hj
    cases hsame
    simp [Transport.isStale, h.bound]
  · have hbefore := hb hj
    rwa [Transport.isStale, ← (h.others hq).binding] at hbefore

namespace Change

theorem current (h : Change closes b D c) (hb : b.Current) (hD : ∀ queue, .deleted queue ∉ D) :
    c.Current := by
  cases h with
  | aside _ htopics _ htransport =>
      intro q j hj
      rw [htransport] at hj
      rw [Registry.incarnation?, htopics]
      exact hb hj
  | bound queue i hi => exact hb.touches hi (Transport.bind_touches b.transport queue i)
  | sent queue i payload hi =>
      exact hb.touches hi ((Transport.bind_touches b.transport queue i).append payload)
  | taken queue i group hi =>
      exact hb.touches hi ((Transport.bind_touches b.transport queue i).take group)
  | opened | closed => exact hb
  | created name layout r hr =>
      obtain ⟨hnone, -, hmade⟩ := Registry.create_incarnation hr
      intro q j hj
      have hbefore : b.registry.incarnation? q = some j := hb hj
      -- A bound queue has a live topic, so the new topic is of another one.
      have hq : q ≠ name := by
        rintro rfl
        rw [hnone] at hbefore
        cases hbefore
      rw [hmade, if_neg hq]
      exact hbefore
  | deleted name => exact absurd (.head _) (hD name)

theorem settled (h : Change closes b D c) (hb : b.Settled)
    (hnew : ∀ queue, .created queue ∈ D → b.transport.bindings.get? queue = none) : c.Settled := by
  cases h with
  | aside _ htopics _ htransport =>
      intro q j hj
      rw [Registry.incarnation?, htopics] at hj
      rw [htransport]
      exact hb hj
  | bound queue i hi => exact hb.touches hi (Transport.bind_touches b.transport queue i)
  | sent queue i payload hi =>
      exact hb.touches hi ((Transport.bind_touches b.transport queue i).append payload)
  | taken queue i group hi =>
      exact hb.touches hi ((Transport.bind_touches b.transport queue i).take group)
  | opened | closed => exact hb
  | created name layout r hr =>
      obtain ⟨-, -, hmade⟩ := Registry.create_incarnation hr
      intro q j hj
      by_cases hq : q = name
      · subst hq
        exact Transport.isStale_of_unbound (hnew q (.head _)) j
      · rw [hmade, if_neg hq] at hj
        exact hb hj
  | deleted name r hr =>
      obtain ⟨-, -, hgone⟩ := Registry.delete_incarnation hr
      intro q j hj
      rw [hgone] at hj
      split at hj
      · cases hj
      · exact hb hj

end Change

namespace Evolves

/-- As long as no topic is made after one was deleted, no queue is bound to an earlier topic. -/
theorem settled (h : Evolves closes b D c) (hb : b.Current)
    (hD : ∀ queue, .deleted queue ∈ D → ∀ name, .created name ∉ D) :
    c.Settled ∧ ((∀ queue, .deleted queue ∉ D) → c.Current) := by
  induction h with
  | refl => exact ⟨hb.settled, fun _ => hb⟩
  | @tail D E c d _ hlast ih =>
      obtain ⟨hsettled, hcurrent⟩ := ih fun queue hdeleted name hcreated =>
        hD queue (List.mem_append_left _ hdeleted) name (List.mem_append_left _ hcreated)
      refine ⟨hlast.settled hsettled fun queue hcreated => ?_, fun hnone => ?_⟩
      · have hnone : ∀ name, .deleted name ∉ D := fun name hdeleted =>
          hD name (List.mem_append_left _ hdeleted) queue (List.mem_append_right _ hcreated)
        obtain ⟨layout, r, hr, -⟩ := hlast.makes hcreated
        obtain ⟨habsent, -⟩ := Registry.create_incarnation hr
        cases hbound : c.transport.bindings.get? queue with
        | none => rfl
        | some i =>
            have hi := hcurrent hnone hbound
            rw [habsent] at hi
            cases hi
      · exact hlast.current (hcurrent fun queue hdeleted => hnone queue (List.mem_append_left _ hdeleted))
          fun queue hdeleted => hnone queue (List.mem_append_right _ hdeleted)

theorem allOpen (h : Evolves closes b D c) (hcloses : ∀ n, ¬ closes n)
    (hb : ∀ s ∈ b.transport.sessions, s.closed = false) : ∀ s ∈ c.transport.sessions, s.closed = false := by
  intro s hs
  obtain ⟨n, hn⟩ := List.getElem?_of_mem hs
  refine Bool.eq_false_iff.mpr fun hclosed => ?_
  rcases h.closed_cases ⟨s, hn, hclosed⟩ with ⟨t, ht, htclosed⟩ | hmay
  · rw [hb t (List.mem_of_getElem? ht)] at htclosed
    cases htclosed
  · exact hcloses n hmay

end Evolves

theorem feed_absent (h : b.registry.topics.contains queue = false) (group : String) :
    b.feed queue group = none := by
  rw [feed, Registry.incarnation_of_missing h]
  rfl

theorem Settled.feed (hb : b.Settled) (hqueue : b.registry.topics.contains queue) (group : String) :
    b.feed queue group = some (b.snapshot.kept queue group) := by
  obtain ⟨i, hi⟩ := Registry.incarnation_of_live hqueue
  have hkept : b.snapshot.kept queue group = (b.transport.log queue, b.transport.offset queue group) := by
    simp [Snapshot.kept, snapshot, Transport.log, Transport.offset, Transport.groupOffsets, Table.getD, hqueue]
  rw [Backend.feed, hi, Option.map_some, Transport.feed_of_bound (hb hi), hkept]

theorem restore_current (s : Snapshot) (clock : Int64) : (s.restore clock).Current := by
  intro queue i hi
  simp [Snapshot.restore] at hi

theorem restore_feed {s : Snapshot} {clock : Int64}
    (hqueue : (s.restore clock).registry.topics.contains queue) (group : String) :
    (s.restore clock).feed queue group = some (s.kept queue group) := by
  obtain ⟨i, hi⟩ := Registry.incarnation_of_live hqueue
  have hunbound : (s.restore clock).transport.bindings.get? queue = none := rfl
  rw [feed, hi, Option.map_some, (restore_numbered s clock).feed_unbound hunbound]

theorem inheritance_of_tidy {s : Snapshot} {clock : Int64} (hs : s.Tidy)
    (hnone : (s.restore clock).registry.incarnation? queue = none) (group : String) :
    (s.restore clock).inheritance s queue group = ([], 0) := by
  have habsent : s.topics.contains queue = false := by
    have hsome := Registry.isSome_incarnation (s.restore clock).registry queue
    rw [hnone, ← Registry.contains_layouts] at hsome
    have hlayouts : (s.restore clock).registry.layouts = s.topics := Registry.layouts_restore s.topics
    rw [← hlayouts, ← hsome]
    rfl
  have hunbound : (s.restore clock).transport.bindings.contains queue = false := rfl
  rw [inheritance, hunbound, if_neg (by simp), hs.topics habsent]

end Backend

end ManagedQueue
