import ManagedQueue.Proofs.Glance

namespace ManagedQueue

open Operation

namespace Lifecycle

theorem update_glances (queue : String) : Glances (update queue) :=
  .bind (requireName_glances _ _) fun _ => requireTopic_glances _ _ _

theorem groupConfigs_glances (op queue : String) (groups : List String) :
    Glances (groupConfigs op queue groups) := by
  induction groups with
  | nil => exact .pure _
  | cons group groups ih =>
      apply Glances.bind (groupConfig_glances op group queue)
      intro found
      cases found with
      | some record => exact .bind ih fun _ => .pure _
      | none => exact .bind (.note (by decide) _ _) fun _ => ih

theorem queueInfo_glances (op queue : String) (groups : List GroupConfig) :
    Glances (queueInfo op queue groups) :=
  .bind (.call _ _ .refl) fun _ => .pure _

theorem queueInfos_glances (op : String) (index : List (String × List String)) :
    Glances (queueInfos op index) := by
  induction index with
  | nil => exact .pure _
  | cons entry rest ih =>
      apply Glances.bind (groupConfigs_glances op entry.1 entry.2)
      intro configs
      exact .bind (queueInfo_glances op entry.1 configs) fun _ => .bind ih fun _ => .pure _

theorem lookup_glances (queue group : String) : Glances (lookup queue group) := by
  apply Glances.bind (.note (by decide) _ _)
  intro _
  split
  · exact .bind (queueMap_glances _) fun index => queueInfos_glances _ _
  · split
    · apply Glances.bind (queueMap_glances _)
      intro index
      split
      · exact .pure _
      · exact queueInfos_glances _ _
    · apply Glances.bind (queueRecorded_glances _ _)
      intro found
      split
      · apply Glances.bind (groupConfig_glances _ _ _)
        intro record
        exact .bind (queueInfo_glances _ _ _) fun _ => .pure _
      · exact .pure _

theorem warnAll_glances (findings : List Finding) : Glances (warnAll findings) := by
  induction findings with
  | nil => exact .pure _
  | cons f rest ih => exact .bind (.note (by decide) _ _) fun _ => ih

theorem audit_glances : Glances audit := by
  apply Glances.bind (.ask _ _ (Site.listTopics_glance true))
  intro topics
  apply Glances.bind (queueMap_glances _)
  intro index
  exact .bind (warnAll_glances _) fun _ => .pure _

end Lifecycle

namespace Groups

theorem checkNames_glances (op group queue : String) : Glances (checkNames op group queue) :=
  .bind (requireName_glances _ _) fun _ =>
    .bind (requireName_glances _ _) fun _ => requireTopic_glances _ _ _

theorem queueConfigs_glances (op group : String) (queues : List String) :
    Glances (queueConfigs op group queues) := by
  induction queues with
  | nil => exact .pure _
  | cons queue queues ih =>
      apply Glances.bind (groupConfig_glances op group queue)
      intro found
      cases found with
      | some record => exact .bind ih fun _ => .pure _
      | none => exact .bind (.note (by decide) _ _) fun _ => ih

theorem groupInfos_glances (op : String) (index : List (String × List String)) :
    Glances (groupInfos op index) := by
  induction index with
  | nil => exact .pure _
  | cons entry rest ih =>
      apply Glances.bind (queueConfigs_glances op entry.1 entry.2)
      intro _
      exact .bind ih fun _ => .pure _

theorem lookup_glances (group : String) : Glances (lookup group) :=
  .bind (.note (by decide) _ _) fun _ => .bind (groupMap_glances _) fun _ => groupInfos_glances _ _

theorem single_glances (group queue : String) : Glances (single group queue) :=
  .bind (checkNames_glances _ _ _) fun _ => .bind (groupConfig_glances _ _ _) fun _ =>
    .bind (.note (by decide) _ _) fun _ => .pure _

end Groups

namespace Volume

theorem requireWindow_of_some {w : Window} {fault : WindowFault} (h : w.fault? = some fault) (s : Site) :
    requireWindow w s = (.error (.invalidArgument (fault.message w)), s) := by
  unfold requireWindow
  rw [h]
  rfl

theorem requireWindow_of_none {w : Window} (h : w.fault? = none) (s : Site) :
    requireWindow w s = (.ok (), s) := by
  unfold requireWindow
  rw [h]
  rfl

theorem requireWindow_glances (w : Window) : Glances (requireWindow w) := by
  unfold requireWindow
  split
  · exact .throw _
  · exact .pure _

theorem siteQuery_glances (direction : Direction) (queue group : String) (w : Window) :
    (Site.query direction queue group w).Glances := by
  intro s
  unfold Site.query
  rw [bind_apply, get_apply]
  cases s.backend.metrics.query direction queue group w <;> exact .refl s

theorem query_glances (direction : Direction) (queue group : String) (w : Window) :
    Glances (query direction queue group w) := by
  apply Glances.bind (requireName_glances _ _)
  intro _
  extract_lets context afterNames
  have hrest (u : Unit) : Glances (afterNames u) :=
    .bind (requireWindow_glances w) fun _ => .bind (requireTopic_glances _ _ _) fun _ =>
      .bind (.call _ _ (siteQuery_glances direction queue group w)) fun _ => .bind (.note (by decide : Level.debug ≠ .error) _ _) fun _ => .pure _
  split
  · exact .bind (requireName_glances _ _) hrest
  · exact hrest ()

end Volume

theorem Site.changeMetadata_run (change : Backend → Except CollaboratorError Metadata) (s : Site) :
    changeMetadata change s = match change s.backend with
      | .error e => (.error e, s)
      | .ok m => (.ok (), s.withMetadata m) := by
  unfold changeMetadata
  rw [bind_apply, get_apply]
  cases change s.backend <;> rfl

namespace Operation

theorem write_cases (c : Call) (failed : CollaboratorError → ServiceError)
    (change : Backend → Except CollaboratorError Metadata) (s : Site) :
    (∃ e, (s.struck c = some e ∨ change s.backend = .error e) ∧
      call c failed (Site.changeMetadata change) s = (.error (failed e), s.counted c)) ∨
    ∃ m, change s.backend = .ok m ∧
      call c failed (Site.changeMetadata change) s = (.ok (), (s.counted c).withMetadata m) := by
  rw [call_run, attempt_run]
  cases hs : s.struck c with
  | some e => exact .inl ⟨e, .inl rfl, rfl⟩
  | none =>
      simp only [Site.changeMetadata_run, Site.counted_backend]
      cases hm : change s.backend with
      | error e => exact .inl ⟨e, .inr rfl, rfl⟩
      | ok m => exact .inr ⟨m, rfl, rfl⟩

theorem write_glanced {s t : Site} (h : s.Glance t) {c : Call} (hstruck : t.struck c = s.struck c)
    (failed : CollaboratorError → ServiceError) (change : Backend → Except CollaboratorError Metadata)
    (hchange : change t.backend = change s.backend) :
    (∃ e u, (s.struck c = some e ∨ change s.backend = .error e) ∧ s.Glance u ∧
      call c failed (Site.changeMetadata change) t = (.error (failed e), u)) ∨
    ∃ m u, change s.backend = .ok m ∧ (s.withMetadata m).Glance u ∧
      call c failed (Site.changeMetadata change) t = (.ok (), u) := by
  have hcounted := h.trans (.counted t c)
  obtain ⟨e, he, hr⟩ | ⟨m, hm, hr⟩ := write_cases c failed change t
  · rw [hstruck, hchange] at he
    exact .inl ⟨e, _, he, hcounted, hr⟩
  · rw [hchange] at hm
    exact .inr ⟨m, _, hm, hcounted.withMetadata m, hr⟩

/-- The change is written if the operation succeeds, and only then. -/
def Records (x : Operation Unit) (change : Backend → Except CollaboratorError Metadata) : Prop :=
  ∀ s, match x s with
    | (.ok (), t) => ∃ m, change s.backend = .ok m ∧ (s.withMetadata m).Glance t
    | (.error _, t) => s.Glance t

namespace Records

variable {α : Type} {x : Operation Unit} {y : Operation α}
variable {change : Backend → Except CollaboratorError Metadata}

theorem call (c : Call) (failed : CollaboratorError → ServiceError)
    (change : Backend → Except CollaboratorError Metadata) :
    Records (call c failed (Site.changeMetadata change)) change := by
  intro s
  obtain ⟨e, t, -, ht, hr⟩ | ⟨m, t, hm, ht, hr⟩ := write_glanced (.refl s) (c := c) rfl failed change rfl
  · rw [hr]
    exact ht
  · rw [hr]
    exact ⟨m, hm, ht⟩

theorem after (hy : Glances y) (hx : Records x change)
    (hchange : ∀ {s t : Site}, s.Glance t → change t.backend = change s.backend) :
    Records (y >>= fun _ => x) change := by
  intro s
  have hs := hy s
  rw [bind_run]
  rcases hr : y s with ⟨e | a, t⟩
  · simpa [hr] using hs
  · rw [hr] at hs
    have ht := hx t
    rcases hw : x t with ⟨e | ⟨⟩, u⟩
    · simp only [hw] at ht ⊢
      exact hs.trans ht
    · simp only [hw] at ht ⊢
      obtain ⟨m, hm, hu⟩ := ht
      exact ⟨m, hchange hs ▸ hm, (hs.withMetadata m).trans hu⟩

theorem noted (hx : Records x change) {level : Level} (h : level ≠ .error) (component : Component)
    (text : String) : Records (x >>= fun _ => note level component text) change := by
  intro s
  have hs := hx s
  rw [bind_run]
  rcases hr : x s with ⟨e | ⟨⟩, t⟩
  · simpa [hr] using hs
  · rw [hr] at hs
    obtain ⟨m, hm, ht⟩ := hs
    exact ⟨m, hm, ht.trans (.note t h component text)⟩

end Records

end Operation

namespace Groups

theorem add_records (group queue : String) (access : Access) :
    Records (add group queue access) fun b => b.metadata.addGroup (.ofAccess group queue access) :=
  .after (checkNames_glances _ _ _) (.noted (.call _ _ _) (by decide) _ _) fun h => by rw [h.metadata]

theorem update_records (group queue : String) (access : Access) :
    Records (update group queue access) fun b =>
      b.metadata.updateGroup (.ofAccess group queue access) :=
  .after (checkNames_glances _ _ _) (.noted (.call _ _ _) (by decide) _ _) fun h => by rw [h.metadata]

theorem delete_records (group queue : String) :
    Records (delete group queue) fun b => b.metadata.deleteGroup group queue :=
  .after (checkNames_glances _ _ _) (.noted (.call _ _ _) (by decide) _ _) fun h => by rw [h.metadata]

end Groups

end ManagedQueue
