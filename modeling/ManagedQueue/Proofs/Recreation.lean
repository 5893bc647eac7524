import ManagedQueue.Proofs.SavedState

namespace ManagedQueue

/-- One run of the program: the conditions it starts under and all that happens in it. -/
structure Tenure where
  site : Site
  settings : Settings
  clock : Int64
  events : List Event

namespace Tenure

def start (t : Tenure) (s : Snapshot) : Host :=
  ⟨{ t.site with backend := s.restore t.clock }, { settings := t.settings }⟩

def finish (t : Tenure) (s : Snapshot) : Host := (Host.steps t.events (t.start s)).2

end Tenure

/-- What is saved at the end of runs of which each goes on from what the one before it saved. -/
def saved (tenures : List Tenure) : Snapshot :=
  tenures.foldl (fun s t => (t.finish s).site.backend.snapshot) {}

/-- What the program saves: only of queues with a topic, and no group is ahead of its log. -/
structure Snapshot.Tidy (s : Snapshot) : Prop where
  topics : ∀ {queue}, s.topics.contains queue = false → ∀ group, s.kept queue group = ([], 0)
  measured : ∀ queue group, (s.kept queue group).2 ≤ (s.kept queue group).1.length

theorem Backend.tidy_snapshot {b : Backend} (hb : b.transport.Measured) : b.snapshot.Tidy where
  topics {queue} hq group := by
    have hcontains : b.registry.topics.contains queue = false := by
      rw [← Registry.contains_layouts]
      exact hq
    simp [Snapshot.kept, Backend.snapshot, Table.getD, hcontains]
  measured := Backend.measured_restored hb b.clock

namespace Tenure

theorem finish_sound (t : Tenure) (s : Snapshot) : (t.finish s).Sound :=
  Host.steps_sound t.settings _ t.events

theorem evolves (t : Tenure) (s : Snapshot) :
    Backend.Evolves (fun _ => True) (s.restore t.clock)
      (Host.chronicle Host.happenings t.events (t.start s)) (t.finish s).site.backend :=
  Host.chronicle_evolves (t.start s) (.start _ _) t.events

theorem finish_numbered (t : Tenure) (s : Snapshot) : (t.finish s).site.backend.Numbered s :=
  (t.evolves s).numbered (Backend.restore_numbered s t.clock)

theorem finish_measured (t : Tenure) {s : Snapshot} (hs : s.Tidy) :
    (t.finish s).site.backend.transport.Measured :=
  (t.evolves s).measured hs.measured

end Tenure

theorem saved_tidy (tenures : List Tenure) : (saved tenures).Tidy := by
  have hall (s : Snapshot) (hs : s.Tidy) :
      (tenures.foldl (fun s t => (t.finish s).site.backend.snapshot) s).Tidy := by
    induction tenures generalizing s with
    | nil => exact hs
    | cons t rest ih => exact ih _ (Backend.tidy_snapshot (t.finish_measured hs))
  exact hall {} ⟨fun _ _ => rfl, fun _ _ => Nat.le_refl 0⟩

/-- What a group has not been given of what a new topic of the queue starts with. -/
def Backend.legacy (saved : Snapshot) (b : Backend) (queue group : String) : List Payload :=
  (b.inheritance saved queue group).1.drop (b.inheritance saved queue group).2

namespace Host

theorem happenings_of_created {e : Event} {h : Host} {queue : String}
    (hcreated : .created queue ∈ happenings e h) : happenings e h = [.created queue] := by
  unfold happenings at hcreated ⊢
  split at hcreated <;> simp_all

theorem created_undelivered {saved : Snapshot} {h : Host} (hs : h.Sound)
    (hb : h.site.backend.Numbered saved) {e : Event} {queue : String}
    (hcreated : .created queue ∈ happenings e h) (group : String) :
    (step e h).2.site.backend.undelivered queue group =
      some (h.site.backend.legacy saved queue group) := by
  rw [Backend.undelivered, (step_evolves hs e).created hb (happenings_of_created hcreated)]
  rfl

/-- As long as the new topic lives, a group receives what it started with and then what is sent, and the
rest is pending. -/
theorem created_life {saved : Snapshot} {h : Host} (hs : h.Sound) (hb : h.site.backend.Numbered saved)
    (hmeasured : h.site.backend.transport.Measured) {e : Event} {queue : String}
    (hcreated : .created queue ∈ happenings e h) (group : String) {later : List Event}
    (hlife : Within queue (chronicle happenings later (step e h).2)) :
    let life := chronicle happenings later (step e h).2
    let legacy := h.site.backend.legacy saved queue group
    receivedBy queue group life <+: legacy ++ sentTo queue life ∧
      (Site.pending queue group (steps later (step e h).2).2.site).1 +
        (receivedBy queue group life).length = legacy.length + (sentTo queue life).length := by
  intro life legacy
  have hstep := step_evolves hs e
  have hevolves := chronicle_evolves (step e h).2 (hs.step e) later
  have hborn := created_undelivered hs hb hcreated group
  have hgiven := hevolves.receivedBy_prefix (hstep.numbered hb) (hstep.measured hmeasured) hlife hborn
  have hleft := hevolves.undelivered (hstep.numbered hb) (hstep.measured hmeasured) hlife group
  rw [hborn] at hleft
  have hlength := hgiven.length_le
  rw [pending_undelivered, hleft]
  simp only [Option.map_some, Option.getD_some, List.length_drop]
  rw [List.length_append] at hlength ⊢
  exact ⟨hgiven, Nat.sub_add_cancel hlength⟩

/-- After every restart, with any failures: a group receives of a new topic what the queue inherits
and then what is sent, in this order, and the rest is pending. So the topic starts empty
exactly if nothing is inherited. A queue inherits what was saved of it, as long as the transport has
not touched it: only if it had a topic at the restart, and none of its messages was sent or
received since. -/
theorem recreated_empty_iff (tenures : List Tenure) (t : Tenure) (e : Event) (queue : String)
    (hcreated : .created queue ∈ happenings e (t.finish (saved tenures))) :
    let s := saved tenures
    let b := (t.finish s).site.backend
    let born := (step e (t.finish s)).2
    (∀ group later, let life := chronicle happenings later born
      Within queue life →
        receivedBy queue group life <+: b.legacy s queue group ++ sentTo queue life ∧
        (Site.pending queue group (steps later born).2.site).1 + (receivedBy queue group life).length =
          (b.legacy s queue group).length + (sentTo queue life).length) ∧
    (∀ group, (∀ later, let life := chronicle happenings later born
      Within queue life → receivedBy queue group life <+: sentTo queue life ∧
        (sentTo queue life = [] → (Site.pending queue group (steps later born).2.site).1 = 0)) ↔
      b.legacy s queue group = []) ∧
    ∀ group, b.legacy s queue group = (if b.transport.bindings.contains queue then []
        else (s.kept queue group).1.drop (s.kept queue group).2) ∧
      (b.legacy s queue group ≠ [] → s.topics.contains queue ∧
        ∀ x ∈ chronicle happenings t.events (t.start s),
          ∀ payload, x ≠ .sent queue payload ∧ ∀ g, x ≠ .received queue g payload) := by
  intro s b born
  have hlife (group : String) (later : List Event) (hwithin : Within queue (chronicle happenings later born)) :=
    created_life (t.finish_sound s) (t.finish_numbered s) (t.finish_measured (saved_tidy tenures))
      hcreated group hwithin
  refine ⟨hlife, fun group => ⟨fun hempty => ?_, fun hnone => ?_⟩, fun group => ?_⟩
  -- A life that ends as it begins shows what was inherited: all of it is pending.
  · obtain ⟨-, hpending⟩ := hempty [] (fun x hx => absurd hx List.not_mem_nil)
    obtain ⟨-, hcount⟩ := hlife group [] (fun x hx => absurd hx List.not_mem_nil)
    rw [hpending rfl] at hcount
    exact List.eq_nil_of_length_eq_zero hcount.symm
  · intro later life hwithin
    obtain ⟨hgiven, hcount⟩ := hlife group later hwithin
    rw [hnone] at hgiven hcount
    refine ⟨hgiven, fun hsent => ?_⟩
    have hreceived := hgiven.length_le
    rw [hsent] at hreceived hcount
    exact Nat.eq_zero_of_add_eq_zero_right hcount
  · have hlegacy : b.legacy s queue group = if b.transport.bindings.contains queue then []
        else (s.kept queue group).1.drop (s.kept queue group).2 := by
      unfold Backend.legacy Backend.inheritance
      split <;> rfl
    refine ⟨hlegacy, fun hsome => ?_⟩
    have hunbound : ¬ b.transport.bindings.contains queue := fun hbound =>
      hsome (hlegacy.trans (if_pos hbound))
    refine ⟨?_, fun x hx payload => ⟨?_, ?_⟩⟩
    · apply Bool.of_not_eq_false
      intro habsent
      apply hsome
      rw [hlegacy, if_neg hunbound, (saved_tidy tenures).topics habsent]
      rfl
    -- Sending or receiving would have bound the queue, and nothing is inherited by a bound one.
    · rintro rfl
      exact hunbound ((t.evolves s).binds hx (.inl ⟨payload, rfl⟩))
    · rintro g rfl
      exact hunbound ((t.evolves s).binds hx (.inr ⟨g, payload, rfl⟩))

/-- A message is sent; the program is restarted, and the topic is deleted and made again. -/
theorem recreated_full_after_restart :
    let first : Tenure := ⟨{}, ⟨[], "", 4, 2⟩, 0,
      [.direct (.createTopic "q" ⟨4, 2⟩), .direct (.produce "q" [111])]⟩
    let second : Tenure := ⟨{}, ⟨[], "", 4, 2⟩, 0, [.direct (.deleteTopic "q")]⟩
    let e : Event := .direct (.createTopic "q" ⟨4, 2⟩)
    .created "q" ∈ happenings e (second.finish (saved [first])) ∧
      ¬ ∀ later, let born := (step e (second.finish (saved [first]))).2
        let life := chronicle happenings later born
        Within "q" life → receivedBy "q" "g" life <+: sentTo "q" life ∧
          (sentTo "q" life = [] → (Site.pending "q" "g" (steps later born).2.site).1 = 0) := by
  intro first second e
  have hcreated : .created "q" ∈ happenings e (second.finish (saved [first])) := by decide +kernel
  refine ⟨hcreated, fun hempty => ?_⟩
  have hnone := ((recreated_empty_iff [first] second e "q" hcreated).2.1 "g").mp hempty
  have hleft : (second.finish (saved [first])).site.backend.legacy (saved [first]) "q" "g" ≠ [] := by
    decide +kernel
  exact hleft hnone

end Host

end ManagedQueue
