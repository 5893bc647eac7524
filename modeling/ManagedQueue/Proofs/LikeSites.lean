import ManagedQueue.Proofs.SavedState

namespace ManagedQueue

namespace Table

variable {κ α β : Type} [LE κ] [LT κ] [Std.LawfulOrderLT κ] [Std.IsLinearOrder κ] [DecidableEq κ]

theorem mapValues_insert [DecidableLT κ] (f : κ → α → β) (t : Table κ α) (k : κ) (v : α) :
    (t.insert k v).mapValues f = (t.mapValues f).insert k (f k v) := by
  apply ext_get?
  intro j
  rw [get?_mapValues, get?_insert, get?_insert, get?_mapValues]
  split
  · next hj => rw [hj, Option.map_some]
  · rfl

theorem mapValues_erase (f : κ → α → β) (t : Table κ α) (k : κ) :
    (t.erase k).mapValues f = (t.mapValues f).erase k := by
  apply ext_get?
  intro j
  rw [get?_mapValues, get?_erase, get?_erase, get?_mapValues]
  split <;> rfl

end Table

namespace Registry

variable {gone : String → Prop} {r q : Registry}

/-- Every cached name has a topic or is one of those whose topics are gone. -/
def Known (gone : String → Prop) (r : Registry) : Prop :=
  ∀ name ∈ r.cached, r.topics.contains name ∨ gone name

theorem Known.refresh (gone : String → Prop) (r : Registry) : r.refresh.Known gone :=
  fun name hname => .inl ((Table.contains_iff_mem_keys r.topics name).mpr hname)

theorem Known.mono (h : r.Known gone) {later : String → Prop} (hlater : ∀ name, gone name → later name) :
    r.Known later := fun name hname => (h name hname).imp_right (hlater name)

theorem Known.create (h : r.Known gone) {name : String} {layout : Layout}
    (hq : r.create name layout = .ok q) : q.Known gone := by
  unfold Registry.create at hq
  split at hq
  · cases hq
  · cases hq
    intro other hother
    rw [Table.contains_insert]
    split
    · exact .inl rfl
    · exact h other hother

theorem Known.delete (h : r.Known gone) {name : String} (hq : r.delete name = .ok q) :
    q.Known fun other => gone other ∨ other = name := by
  unfold Registry.delete at hq
  split at hq
  · cases hq
    intro other hother
    rw [Table.contains_erase]
    by_cases hname : other = name
    · exact .inr (.inr hname)
    · rw [if_neg hname]
      exact (h other hother).imp_right .inl
  · cases hq

def Reads (change : Registry → Except CollaboratorError Registry) : Prop :=
  ∀ r q : Registry, q.layouts = r.layouts →
    (∃ e, change r = .error e ∧ change q = .error e) ∨
    ∃ r' q', change r = .ok r' ∧ change q = .ok q' ∧ q'.layouts = r'.layouts

theorem create_reads (name : String) (layout : Layout) : Reads (·.create name layout) := by
  intro r q h
  have hcontains : q.topics.contains name = r.topics.contains name := by
    rw [← contains_layouts, ← contains_layouts, h]
  cases hname : r.topics.contains name with
  | true => exact .inl ⟨_, if_pos hname, if_pos (hcontains.trans hname)⟩
  | false =>
      rw [hname] at hcontains
      refine .inr ⟨_, _, if_neg (by simp [hname]), if_neg (by simp [hcontains]), ?_⟩
      unfold layouts at h ⊢
      rw [Table.mapValues_insert, Table.mapValues_insert, h]

theorem delete_reads (name : String) : Reads (·.delete name) := by
  intro r q h
  have hcontains : q.topics.contains name = r.topics.contains name := by
    rw [← contains_layouts, ← contains_layouts, h]
  cases hname : r.topics.contains name with
  | false =>
      rw [hname] at hcontains
      exact .inl ⟨_, if_neg (by simp [hname]), if_neg (by simp [hcontains])⟩
  | true =>
      refine .inr ⟨_, _, if_pos hname, if_pos (hcontains.trans hname), ?_⟩
      unfold layouts at h ⊢
      rw [Table.mapValues_erase, Table.mapValues_erase, h]

end Registry

namespace Site

variable {gone : String → Prop}

/-- No failure is planned, the indexes have no entries of their own, and sessions open at once. -/
structure Calm (gone : String → Prop) (s : Site) : Prop where
  faults : ∀ c, s.faults c = none
  drift : s.drift = []
  gateShut : s.gateShut = false
  known : s.backend.registry.Known gone

structure Alike (gone : String → Prop) (s t : Site) : Prop where
  calm : s.Calm gone
  calm_other : t.Calm gone
  layouts : t.backend.registry.layouts = s.backend.registry.layouts
  metadata : t.backend.metadata = s.backend.metadata
  metrics : t.backend.metrics = s.backend.metrics
  clock : t.backend.clock = s.backend.clock

theorem Calm.mono {s : Site} (h : s.Calm gone) {later : String → Prop}
    (hlater : ∀ name, gone name → later name) : s.Calm later :=
  ⟨h.faults, h.drift, h.gateShut, h.known.mono hlater⟩

theorem Calm.planned {s : Site} (h : s.Calm gone) (c : Call) : Operation.planned c s = (none, s) := by
  unfold Operation.planned
  rw [bind_apply, get_apply, h.faults c]
  rfl

theorem Calm.attempt {α : Type} {s : Site} (h : s.Calm gone) (c : Call)
    (task : Task (Except CollaboratorError α)) : Operation.attempt c task s = task s := by
  unfold Operation.attempt
  rw [bind_apply, h.planned]

namespace Alike

variable {s t : Site}

theorem mono (h : s.Alike gone t) {later : String → Prop} (hlater : ∀ name, gone name → later name) :
    s.Alike later t :=
  ⟨h.calm.mono hlater, h.calm_other.mono hlater, h.layouts, h.metadata, h.metrics, h.clock⟩

theorem contains (h : s.Alike gone t) (name : String) :
    t.backend.registry.topics.contains name = s.backend.registry.topics.contains name := by
  rw [← Registry.contains_layouts, ← Registry.contains_layouts, h.layouts]

theorem keys (h : s.Alike gone t) : t.backend.registry.topics.keys = s.backend.registry.topics.keys := by
  rw [← Registry.keys_layouts, ← Registry.keys_layouts, h.layouts]

theorem withRegistry (h : s.Alike gone t) {later : String → Prop} {r q : Registry} (hr : r.Known later)
    (hq : q.Known later) (hlayouts : q.layouts = r.layouts) :
    (s.withRegistry r).Alike later (t.withRegistry q) :=
  ⟨⟨h.calm.faults, h.calm.drift, h.calm.gateShut, hr⟩,
    ⟨h.calm_other.faults, h.calm_other.drift, h.calm_other.gateShut, hq⟩, hlayouts, h.metadata, h.metrics,
    h.clock⟩

theorem withMetadata (h : s.Alike gone t) (m : Metadata) : (s.withMetadata m).Alike gone (t.withMetadata m) :=
  ⟨⟨h.calm.faults, h.calm.drift, h.calm.gateShut, h.calm.known⟩,
    ⟨h.calm_other.faults, h.calm_other.drift, h.calm_other.gateShut, h.calm_other.known⟩, h.layouts, rfl,
    h.metrics, h.clock⟩

theorem note (h : s.Alike gone t) (level : Level) (component : Component) (text : String) :
    (Site.note level component text s).2.Alike gone (Site.note level component text t).2 :=
  ⟨⟨h.calm.faults, h.calm.drift, h.calm.gateShut, h.calm.known⟩,
    ⟨h.calm_other.faults, h.calm_other.drift, h.calm_other.gateShut, h.calm_other.known⟩, h.layouts,
    h.metadata, h.metrics, h.clock⟩

end Alike

end Site

/-- At sites that are alike the task answers alike and leaves them alike. -/
def Task.Respects {α : Type} (gone : String → Prop) (x : Task α) : Prop :=
  ∀ s t : Site, s.Alike gone t → (x t).1 = (x s).1 ∧ (x s).2.Alike gone (x t).2

namespace Task.Respects

variable {α : Type} {gone : String → Prop}

theorem read {f : Site → α} (hf : ∀ s t : Site, s.Alike gone t → f t = f s) :
    Respects gone (do return f (← get) : Task α) := fun s t h => ⟨hf s t h, h⟩

theorem note (level : Level) (component : Component) (text : String) :
    Respects gone (Site.note level component text) := fun _ _ h => ⟨rfl, h.note level component text⟩

end Task.Respects

theorem Operation.attempt_respects {α : Type} (c : Call) {task : Task (Except CollaboratorError α)}
    (h : task.Respects gone) : (attempt c task).Respects gone := by
  intro s t hst
  rw [hst.calm.attempt, hst.calm_other.attempt]
  exact h s t hst

namespace Site

open ManagedQueue.Task (Respects)

variable {gone : String → Prop}

theorem existTopic_respects (name : String) : Respects gone (existTopic name true) := by
  intro s t h
  exact ⟨by rw [existTopic_forced, existTopic_forced, h.keys],
    h.withRegistry (.refresh _ _) (.refresh _ _) h.layouts⟩

theorem listTopics_respects : Respects gone (listTopics true) := fun _ _ h =>
  ⟨h.keys, h.withRegistry (.refresh _ _) (.refresh _ _) h.layouts⟩

def changeRegistry (change : Registry → Except CollaboratorError Registry) (report : String) :
    Task (Except CollaboratorError Unit) := do
  match change (← get).backend.registry with
  | .error e => return .error e
  | .ok registry =>
    setRegistry registry
    note .debug .registry report
    return .ok ()

theorem changeRegistry_cases {change : Registry → Except CollaboratorError Registry}
    (hchange : Registry.Reads change) {later : String → Prop}
    (hknown : ∀ {r q}, change r = .ok q → r.Known gone → q.Known later) (report : String) {s t : Site}
    (h : s.Alike gone t) :
    (∃ e, changeRegistry change report s = (.error e, s) ∧ changeRegistry change report t = (.error e, t)) ∨
    ∃ s' t', changeRegistry change report s = (.ok (), s') ∧
      changeRegistry change report t = (.ok (), t') ∧ s'.Alike later t' := by
  unfold changeRegistry
  simp only [bind_apply, get_apply]
  obtain ⟨e, hs, ht⟩ | ⟨r, q, hs, ht, hlayouts⟩ := hchange s.backend.registry t.backend.registry h.layouts
  · rw [hs, ht]
    exact .inl ⟨e, rfl, rfl⟩
  · rw [hs, ht]
    have hwritten := h.withRegistry (hknown hs h.calm.known) (hknown ht h.calm_other.known) hlayouts
    exact .inr ⟨_, _, rfl, rfl, hwritten.note .debug .registry report⟩

theorem createTopic_cases (name : String) (layout : Layout) (address : String) {s t : Site}
    (h : s.Alike gone t) :
    (∃ e, createTopic name layout address s = (.error e, s) ∧
      createTopic name layout address t = (.error e, t)) ∨
    ∃ s' t', createTopic name layout address s = (.ok (), s') ∧
      createTopic name layout address t = (.ok (), t') ∧ s'.Alike gone t' :=
  changeRegistry_cases (Registry.create_reads name layout) (fun hq hr => hr.create hq) _ h

theorem createTopic_respects (name : String) (layout : Layout) (address : String) :
    Respects gone (createTopic name layout address) := by
  intro s t h
  obtain ⟨e, hs, ht⟩ | ⟨s', t', hs, ht, hwritten⟩ := createTopic_cases name layout address h
  · rw [hs, ht]
    exact ⟨rfl, h⟩
  · rw [hs, ht]
    exact ⟨rfl, hwritten⟩

theorem deleteTopic_cases (name address : String) {s t : Site} (h : s.Alike gone t) :
    (∃ e, deleteTopic name address s = (.error e, s) ∧ deleteTopic name address t = (.error e, t)) ∨
    ∃ s' t', deleteTopic name address s = (.ok (), s') ∧ deleteTopic name address t = (.ok (), t') ∧
      s'.Alike (fun other => gone other ∨ other = name) t' :=
  changeRegistry_cases (Registry.delete_reads name) (fun hq hr => hr.delete hq) _ h

theorem changeMetadata_respects {change : Backend → Except CollaboratorError Metadata}
    (hchange : ∀ b c : Backend, c.metadata = b.metadata → c.clock = b.clock → change c = change b) :
    Respects gone (changeMetadata change) := by
  intro s t h
  rw [changeMetadata_run, changeMetadata_run, hchange _ _ h.metadata h.clock]
  cases change s.backend with
  | error e => exact ⟨rfl, h⟩
  | ok m => exact ⟨rfl, h.withMetadata m⟩

theorem query_respects (direction : Direction) (queue group : String) (w : Window) :
    Respects gone (query direction queue group w) := by
  intro s t h
  refine ⟨query_congr h.metrics direction queue group w, ?_⟩
  unfold query
  simp only [bind_apply, get_apply]
  rw [h.metrics]
  cases s.backend.metrics.query direction queue group w <;> exact h

end Site

namespace Operation

variable {α β : Type} {gone : String → Prop}

def Respects (gone : String → Prop) (x : Operation α) : Prop :=
  ∀ s t : Site, s.Alike gone t → (x t).1 = (x s).1 ∧ (x s).2.Alike gone (x t).2

namespace Respects

theorem pure (a : α) : Respects gone (Pure.pure a : Operation α) := fun _ _ h => ⟨rfl, h⟩

theorem throw (e : ServiceError) : Respects gone (MonadExcept.throw e : Operation α) := fun _ _ h => ⟨rfl, h⟩

theorem cases {x : Operation α} (hx : Respects gone x) {s t : Site} (h : s.Alike gone t) :
    (∃ e s' t', x s = (.error e, s') ∧ x t = (.error e, t') ∧ s'.Alike gone t') ∨
    ∃ a s' t', x s = (.ok a, s') ∧ x t = (.ok a, t') ∧ s'.Alike gone t' := by
  obtain ⟨hanswer, hsites⟩ := hx s t h
  rcases hs : x s with ⟨answer, s'⟩
  rcases ht : x t with ⟨_, t'⟩
  rw [hs, ht] at hanswer hsites
  cases hanswer
  cases answer with
  | error e => exact .inl ⟨e, s', t', rfl, rfl, hsites⟩
  | ok a => exact .inr ⟨a, s', t', rfl, rfl, hsites⟩

theorem bind {x : Operation α} {f : α → Operation β} (hx : Respects gone x) (hf : ∀ a, Respects gone (f a)) :
    Respects gone (x >>= f) := by
  intro s t h
  obtain ⟨e, s', t', hs, ht, hsites⟩ | ⟨a, s', t', hs, ht, hsites⟩ := hx.cases h
  · rw [bind_of_error hs, bind_of_error ht]
    exact ⟨rfl, hsites⟩
  · rw [bind_of_ok hs, bind_of_ok ht]
    exact hf a s' t' hsites

theorem note (level : Level) (component : Component) (text : String) :
    Respects gone (Operation.note level component text) := by
  intro s t h
  exact ⟨rfl, (Task.Respects.note level component text s t h).2⟩

theorem lift {task : Task α} (h : task.Respects gone) : Respects gone (liftM task : Operation α) := by
  intro s t hst
  obtain ⟨hanswer, hsites⟩ := h s t hst
  exact ⟨congrArg Except.ok hanswer, hsites⟩

theorem call (c : Call) (failed : CollaboratorError → ServiceError)
    {task : Task (Except CollaboratorError α)} (h : task.Respects gone) : Respects gone (call c failed task) := by
  refine .bind (.lift (attempt_respects c h)) fun answer => ?_
  cases answer with
  | ok a => exact .pure a
  | error e => exact .throw _

theorem ask (c : Call) (failed : CollaboratorError → ServiceError) {task : Task α} (h : task.Respects gone) :
    Respects gone (ask c failed task) :=
  .call c failed fun s t hst => ⟨congrArg Except.ok (h s t hst).1, (h s t hst).2⟩

end Respects

theorem requireName_respects (kind value : String) : Respects gone (requireName kind value) := by
  unfold requireName
  split
  · exact .throw _
  · exact .pure _

theorem topicExists_respects (operation queue : String) : Respects gone (topicExists .strict operation queue) :=
  .ask _ _ (Site.existTopic_respects queue)

theorem requireTopic_respects (operation queue : String) :
    Respects gone (requireTopic .strict operation queue) := by
  refine .bind (topicExists_respects operation queue) fun found => ?_
  cases found with
  | true => exact .pure _
  | false => exact .throw _

theorem queueRecorded_respects (operation queue : String) : Respects gone (queueRecorded operation queue) :=
  .ask _ _ (.read fun s t h => by rw [h.metadata])

theorem queueMap_respects (failed : CollaboratorError → ServiceError) : Respects gone (queueMap failed) :=
  .ask _ _ (.read fun s t h => by rw [queueIndex, queueIndex, h.metadata, h.calm.drift, h.calm_other.drift])

theorem groupMap_respects (failed : CollaboratorError → ServiceError) : Respects gone (groupMap failed) :=
  .ask _ _ (.read fun s t h => by rw [groupIndex, groupIndex, h.metadata, h.calm.drift, h.calm_other.drift])

theorem groupConfig_respects (operation group queue : String) :
    Respects gone (groupConfig operation group queue) :=
  .ask _ _ (.read fun s t h => by rw [h.metadata])

end Operation

open Operation

variable {gone : String → Prop}

namespace Lifecycle

theorem recordNew_respects (queue : String) : Respects gone (recordNew queue) := by
  refine .bind (requireName_respects _ _) fun _ => .bind (topicExists_respects _ _) fun found => ?_
  cases found with
  | true => exact .throw _
  | false =>
      refine .bind (queueRecorded_respects _ _) fun recorded => ?_
      cases recorded with
      | true => exact .throw _
      | false =>
          exact .call _ _ (Site.changeMetadata_respects fun b c hm hc => by rw [hm, hc])

theorem secondWrite_respects (c : Call) (op queue : String) {task : Task (Except CollaboratorError Unit)}
    (complaint : CollaboratorError → String) (report : String) (h : task.Respects gone) :
    Respects gone (secondWrite c op queue task complaint report) := by
  refine .bind (.lift (attempt_respects c h)) fun answer => ?_
  cases answer with
  | error e => exact .bind (.note _ _ _) fun _ => .throw _
  | ok => exact .note _ _ _

theorem create_respects (settings : Settings) (queue : String) : Respects gone (create settings queue) :=
  .bind (recordNew_respects queue) fun _ =>
    secondWrite_respects _ _ _ _ _ (Site.createTopic_respects _ _ _)

theorem update_respects (queue : String) : Respects gone (update queue) :=
  .bind (requireName_respects _ _) fun _ => requireTopic_respects _ _

theorem unrecord_respects (queue : String) : Respects gone (unrecord queue) := by
  refine .bind (requireName_respects _ _) fun _ => .bind (requireTopic_respects _ _) fun _ =>
    .bind (queueRecorded_respects _ _) fun recorded => ?_
  cases recorded with
  | false => exact .throw _
  | true => exact .call _ _ (Site.changeMetadata_respects fun b c hm _ => by rw [hm])

theorem delete_cases (settings : Settings) (queue : String) {s t : Site} (h : s.Alike gone t) :
    (∃ e s' t', delete settings queue s = (.error e, s') ∧ delete settings queue t = (.error e, t') ∧
      s'.Alike gone t') ∨
    ∃ s' t', delete settings queue s = (.ok (), s') ∧ delete settings queue t = (.ok (), t') ∧
      s'.Alike (fun other => gone other ∨ other = queue) t' := by
  unfold delete
  obtain ⟨e, s₁, t₁, hs, ht, hfirst⟩ | ⟨_, s₁, t₁, hs, ht, hfirst⟩ := (unrecord_respects queue).cases h
  · exact .inl ⟨e, s₁, t₁, bind_of_error hs _, bind_of_error ht _, hfirst⟩
  rw [bind_of_ok hs, bind_of_ok ht]
  unfold withdraw secondWrite
  rw [lift_bind_run, lift_bind_run, hfirst.calm.attempt, hfirst.calm_other.attempt]
  obtain ⟨e, hs, ht⟩ | ⟨s₂, t₂, hs, ht, hwritten⟩ :=
    Site.deleteTopic_cases queue settings.registryAddress hfirst
  · rw [hs, ht]
    exact .inl ⟨_, _, _, rfl, rfl, hfirst.note _ _ _⟩
  · rw [hs, ht]
    exact .inr ⟨_, _, rfl, rfl, hwritten.note _ _ _⟩

theorem groupConfigs_respects (op queue : String) (groups : List String) :
    Respects gone (groupConfigs op queue groups) := by
  induction groups with
  | nil => exact .pure _
  | cons group groups ih =>
      refine .bind (groupConfig_respects _ _ _) fun record => ?_
      cases record with
      | some record => exact .bind ih fun _ => .pure _
      | none => exact .bind (.note _ _ _) fun _ => ih

theorem queueInfo_respects (op queue : String) (groups : List GroupConfig) :
    Respects gone (queueInfo op queue groups) :=
  .bind (.call _ _ (.read fun s t h => by rw [h.metadata])) fun _ => .pure _

theorem queueInfos_respects (op : String) (index : List (String × List String)) :
    Respects gone (queueInfos op index) := by
  induction index with
  | nil => exact .pure _
  | cons entry rest ih =>
      exact .bind (groupConfigs_respects _ _ _) fun _ => .bind (queueInfo_respects _ _ _) fun _ =>
        .bind ih fun _ => .pure _

theorem lookup_respects (queue group : String) : Respects gone (lookup queue group) := by
  refine .bind (.note _ _ _) fun _ => ?_
  split
  · exact .bind (queueMap_respects _) fun _ => queueInfos_respects _ _
  split
  · refine .bind (queueMap_respects _) fun index => ?_
    split
    · exact .pure _
    · exact queueInfos_respects _ _
  · refine .bind (queueRecorded_respects _ _) fun recorded => ?_
    cases recorded with
    | false => exact .pure _
    | true =>
        exact .bind (groupConfig_respects _ _ _) fun _ => .bind (queueInfo_respects _ _ _) fun _ => .pure _

theorem warnAll_respects (fs : List Finding) : Respects gone (warnAll fs) := by
  induction fs with
  | nil => exact .pure _
  | cons f rest ih => exact .bind (.note _ _ _) fun _ => ih

theorem audit_respects : Respects gone audit :=
  .bind (.ask _ _ Site.listTopics_respects) fun _ => .bind (queueMap_respects _) fun _ =>
    .bind (warnAll_respects _) fun _ => .pure _

end Lifecycle

namespace Groups

theorem checkNames_respects (op group queue : String) : Respects gone (checkNames op group queue) :=
  .bind (requireName_respects _ _) fun _ => .bind (requireName_respects _ _) fun _ =>
    requireTopic_respects _ _

theorem add_respects (group queue : String) (access : Access) : Respects gone (add group queue access) :=
  .bind (checkNames_respects _ _ _) fun _ =>
    .bind (.call _ _ (Site.changeMetadata_respects fun b c hm _ => by rw [hm])) fun _ => .note _ _ _

theorem update_respects (group queue : String) (access : Access) : Respects gone (update group queue access) :=
  .bind (checkNames_respects _ _ _) fun _ =>
    .bind (.call _ _ (Site.changeMetadata_respects fun b c hm _ => by rw [hm])) fun _ => .note _ _ _

theorem delete_respects (group queue : String) : Respects gone (delete group queue) :=
  .bind (checkNames_respects _ _ _) fun _ =>
    .bind (.call _ _ (Site.changeMetadata_respects fun b c hm _ => by rw [hm])) fun _ => .note _ _ _

theorem queueConfigs_respects (op group : String) (queues : List String) :
    Respects gone (queueConfigs op group queues) := by
  induction queues with
  | nil => exact .pure _
  | cons queue queues ih =>
      refine .bind (groupConfig_respects _ _ _) fun record => ?_
      cases record with
      | some record => exact .bind ih fun _ => .pure _
      | none => exact .bind (.note _ _ _) fun _ => ih

theorem groupInfos_respects (op : String) (index : List (String × List String)) :
    Respects gone (groupInfos op index) := by
  induction index with
  | nil => exact .pure _
  | cons entry rest ih => exact .bind (queueConfigs_respects _ _ _) fun _ => .bind ih fun _ => .pure _

theorem lookup_respects (group : String) : Respects gone (lookup group) :=
  .bind (.note _ _ _) fun _ => .bind (groupMap_respects _) fun _ => groupInfos_respects _ _

theorem single_respects (group queue : String) : Respects gone (single group queue) :=
  .bind (checkNames_respects _ _ _) fun _ => .bind (groupConfig_respects _ _ _) fun _ =>
    .bind (.note _ _ _) fun _ => .pure _

end Groups

namespace Volume

theorem requireWindow_respects (w : Window) : Respects gone (requireWindow w) := by
  unfold requireWindow
  split
  · exact .throw _
  · exact .pure _

theorem query_respects (direction : Direction) (queue group : String) (w : Window) :
    Respects gone (query direction queue group w) := by
  refine .bind (requireName_respects _ _) fun _ => ?_
  extract_lets context afterNames
  have hrest (u : Unit) : Respects gone (afterNames u) :=
    .bind (requireWindow_respects w) fun _ => .bind (requireTopic_respects _ _) fun _ =>
      .bind (.call _ _ (Site.query_respects direction queue group w)) fun _ =>
        .bind (.note _ _ _) fun _ => .pure _
  split
  · exact .bind (requireName_respects _ _) hrest
  · exact hrest ()

end Volume

end ManagedQueue
