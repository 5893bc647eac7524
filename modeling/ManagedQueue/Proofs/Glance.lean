import ManagedQueue.Event

namespace ManagedQueue

section Runs

variable {σ α β : Type}

theorem pure_apply (a : α) (s : σ) : (pure a : StateM σ α) s = (a, s) := rfl

theorem bind_apply (t : StateM σ α) (f : α → StateM σ β) (s : σ) : (t >>= f) s = f (t s).1 (t s).2 := rfl

theorem get_apply (s : σ) : (get : StateM σ σ) s = (s, s) := rfl

theorem modify_apply (f : σ → σ) (s : σ) : (modify f : StateM σ PUnit) s = (⟨⟩, f s) := rfl

end Runs

/-- Sessions are opened and closed and never forgotten; what they read does not change. -/
def Transport.Extends (t u : Transport) : Prop :=
  ∀ (n : Nat) (c : Session), t.sessions[n]? = some c →
    ∃ d : Session, u.sessions[n]? = some d ∧ d.queue = c.queue ∧ d.group = c.group ∧ (c.closed → d.closed)

namespace Transport.Extends

theorem refl (t : Transport) : Extends t t := fun _ c hc => ⟨c, hc, rfl, rfl, id⟩

theorem of_eq {t u : Transport} (h : u.sessions = t.sessions) : Extends t u :=
  fun _ c hc => ⟨c, h ▸ hc, rfl, rfl, id⟩

theorem trans {t u v : Transport} (h : Extends t u) (k : Extends u v) : Extends t v := by
  intro n c hc
  obtain ⟨d, hd, hqueue, hgroup, hclosed⟩ := h n c hc
  obtain ⟨e, he, hqueue', hgroup', hclosed'⟩ := k n d hd
  exact ⟨e, he, hqueue'.trans hqueue, hgroup'.trans hgroup, hclosed' ∘ hclosed⟩

theorem length_le {t u : Transport} (h : Extends t u) : t.sessions.length ≤ u.sessions.length := by
  apply Nat.le_of_not_lt
  intro hn
  obtain ⟨d, hd, -⟩ := h _ _ (List.getElem?_eq_getElem hn)
  obtain ⟨hlt, -⟩ := List.getElem?_eq_some_iff.mp hd
  exact Nat.lt_irrefl _ hlt

end Transport.Extends

namespace Site

def withRegistry (s : Site) (registry : Registry) : Site :=
  { s with backend := { s.backend with registry } }

def withMetadata (s : Site) (metadata : Metadata) : Site :=
  { s with backend := { s.backend with metadata } }

def withTransport (s : Site) (transport : Transport) : Site :=
  { s with backend := { s.backend with transport } }

def withMetrics (s : Site) (metrics : Metrics) : Site :=
  { s with backend := { s.backend with metrics } }

abbrev Extends (s t : Site) : Prop := s.backend.transport.Extends t.backend.transport

/-- What the plan of failure answers to the next call of this kind. -/
def struck (s : Site) (c : Call) : Option CollaboratorError :=
  (s.faults c).bind fun fault => if fault.strike.1 then some fault.error else none

def counted (s : Site) (c : Call) : Site :=
  { s with faults := fun d => if d = c then (s.faults c).bind (·.strike.2) else s.faults d }

@[simp]
theorem counted_backend (s : Site) (c : Call) : (s.counted c).backend = s.backend := rfl

theorem struck_counted {s : Site} {c d : Call} (h : d ≠ c) : (s.counted c).struck d = s.struck d := by
  simp [struck, counted, h]

/-- Messages and metrics may have changed, and sessions may have been opened or closed. Topics,
records and the conditions of the service are the same, and nothing was reported as an error. -/
structure Traffic (s t : Site) : Prop where
  topics : t.backend.registry.topics = s.backend.registry.topics
  nextIncarnation : t.backend.registry.nextIncarnation = s.backend.registry.nextIncarnation
  metadata : t.backend.metadata = s.backend.metadata
  clock : t.backend.clock = s.backend.clock
  drift : t.drift = s.drift
  gateShut : t.gateShut = s.gateShut
  journal : ∃ more, t.journal = s.journal ++ more ∧ ∀ r ∈ more, r.level ≠ .error
  sessions : s.backend.transport.Extends t.backend.transport

structure Glance (s t : Site) : Prop extends Traffic s t where
  transport : t.backend.transport = s.backend.transport
  metrics : t.backend.metrics = s.backend.metrics

namespace Traffic

theorem of_eq {s t : Site} (hregistry : t.backend.registry = s.backend.registry)
    (hmetadata : t.backend.metadata = s.backend.metadata) (hclock : t.backend.clock = s.backend.clock)
    (hdrift : t.drift = s.drift) (hgate : t.gateShut = s.gateShut) (hjournal : t.journal = s.journal)
    (hsessions : s.backend.transport.Extends t.backend.transport) : Traffic s t :=
  ⟨by rw [hregistry], by rw [hregistry], hmetadata, hclock, hdrift, hgate,
    ⟨[], by simp [hjournal], by simp⟩, hsessions⟩

theorem refl (s : Site) : Traffic s s := of_eq rfl rfl rfl rfl rfl rfl (.refl _)

theorem trans {s t u : Site} (h : Traffic s t) (k : Traffic t u) : Traffic s u := by
  obtain ⟨more, hmore, hlevel⟩ := h.journal
  obtain ⟨rest, hrest, klevel⟩ := k.journal
  refine ⟨k.topics.trans h.topics, k.nextIncarnation.trans h.nextIncarnation,
    k.metadata.trans h.metadata, k.clock.trans h.clock, k.drift.trans h.drift,
    k.gateShut.trans h.gateShut, ⟨more ++ rest, ?_, ?_⟩, h.sessions.trans k.sessions⟩
  · rw [hrest, hmore, List.append_assoc]
  · intro r hr
    rcases List.mem_append.mp hr with hr | hr
    · exact hlevel r hr
    · exact klevel r hr

theorem note (s : Site) {level : Level} (h : level ≠ .error) (component : Component) (text : String) :
    Traffic s (Site.note level component text s).2 :=
  ⟨rfl, rfl, rfl, rfl, rfl, rfl, ⟨[⟨level, component, text⟩], rfl, by simpa using h⟩, .refl _⟩

end Traffic

namespace Glance

theorem refl (s : Site) : Glance s s := ⟨.refl s, rfl, rfl⟩

theorem trans {s t u : Site} (h : Glance s t) (k : Glance t u) : Glance s u :=
  ⟨h.toTraffic.trans k.toTraffic, k.transport.trans h.transport, k.metrics.trans h.metrics⟩

theorem counted (s : Site) (c : Call) : Glance s (s.counted c) :=
  ⟨.of_eq rfl rfl rfl rfl rfl rfl (.refl _), rfl, rfl⟩

theorem note (s : Site) {level : Level} (h : level ≠ .error) (component : Component) (text : String) :
    Glance s (Site.note level component text s).2 :=
  ⟨.note s h component text, rfl, rfl⟩

theorem withMetadata {s t : Site} (h : Glance s t) (m : Metadata) :
    Glance (s.withMetadata m) (t.withMetadata m) :=
  ⟨⟨h.topics, h.nextIncarnation, rfl, h.clock, h.drift, h.gateShut, h.journal, h.sessions⟩, h.transport, h.metrics⟩

theorem withRegistry {s t : Site} (h : Glance s t) {r q : Registry} (htopics : q.topics = r.topics)
    (hnext : q.nextIncarnation = r.nextIncarnation) : Glance (s.withRegistry r) (t.withRegistry q) :=
  ⟨⟨htopics, hnext, h.metadata, h.clock, h.drift, h.gateShut, h.journal, h.sessions⟩, h.transport, h.metrics⟩

end Glance

theorem existTopic_glance (name : String) (force : Bool) (s : Site) :
    Glance s (existTopic name force s).2 := by
  have h : (s.backend.registry.exist name force).2.topics = s.backend.registry.topics ∧
      (s.backend.registry.exist name force).2.nextIncarnation = s.backend.registry.nextIncarnation := by
    unfold Registry.exist
    split <;> exact ⟨rfl, rfl⟩
  exact Glance.withRegistry (.refl s) h.1 h.2

theorem listTopics_glance (force : Bool) (s : Site) : Glance s (listTopics force s).2 := by
  have h : (s.backend.registry.list force).2.topics = s.backend.registry.topics ∧
      (s.backend.registry.list force).2.nextIncarnation = s.backend.registry.nextIncarnation := by
    unfold Registry.list
    split <;> exact ⟨rfl, rfl⟩
  exact Glance.withRegistry (.refl s) h.1 h.2

end Site

namespace Task

def Glances {α : Type} (t : Task α) : Prop := ∀ s, Site.Glance s (t s).2

end Task

namespace Operation

variable {α β : Type}

theorem planned_run (c : Call) (s : Site) : planned c s = (s.struck c, s.counted c) := by
  unfold planned Site.struck Site.counted
  rw [bind_apply, get_apply]
  cases h : s.faults c with
  | none =>
      have hfaults : (fun d => if d = c then none else s.faults d) = s.faults := by
        funext d
        by_cases hd : d = c <;> simp [hd, h]
      simp [hfaults, pure_apply]
  | some fault =>
      cases hs : fault.strike with
      | mk hit rest => simp [hs, bind_apply, pure_apply, modify_apply]

theorem attempt_run (c : Call) (task : Task (Except CollaboratorError α)) (s : Site) :
    attempt c task s = match s.struck c with
      | some e => (.error e, s.counted c)
      | none => task (s.counted c) := by
  unfold attempt
  rw [bind_apply, planned_run]
  cases s.struck c <;> rfl

theorem attempt_unplanned {c : Call} {s : Site} (h : s.faults c = none)
    (task : Task (Except CollaboratorError α)) : attempt c task s = task s := by
  have hplanned : planned c s = (none, s) := by
    unfold planned
    rw [bind_apply, get_apply, h]
    rfl
  unfold attempt
  rw [bind_apply, hplanned]

theorem bind_run (x : Operation α) (f : α → Operation β) (s : Site) :
    (x >>= f) s = match x s with
      | (.ok a, t) => f a t
      | (.error e, t) => (.error e, t) := by
  change ExceptT.bindCont f (x s).1 (x s).2 = _
  rcases x s with ⟨_ | _, t⟩ <;> rfl

theorem lift_bind_run (task : Task α) (f : α → Operation β) (s : Site) :
    ((liftM task : Operation α) >>= f) s = f (task s).1 (task s).2 := rfl

theorem bind_of_ok {x : Operation α} {s t : Site} {a : α} (h : x s = (.ok a, t))
    (f : α → Operation β) : (x >>= f) s = f a t := by
  rw [bind_run, h]

theorem bind_of_error {x : Operation α} {s t : Site} {e : ServiceError} (h : x s = (.error e, t))
    (f : α → Operation β) : (x >>= f) s = (.error e, t) := by
  rw [bind_run, h]

theorem answer_of_noted (x : Operation α) (level : Level) (component : Component) (text : α → String) (s : Site) :
    ((do
      let a ← x
      note level component (text a)
      return a : Operation α) s).1 = (x s).1 := by
  rw [bind_run]
  rcases x s with ⟨_ | _, t⟩ <;> rfl

theorem call_run (c : Call) (failed : CollaboratorError → ServiceError)
    (task : Task (Except CollaboratorError α)) (s : Site) :
    call c failed task s = match attempt c task s with
      | (.ok a, t) => (.ok a, t)
      | (.error e, t) => (.error (failed e), t) := by
  unfold call
  rw [lift_bind_run]
  rcases attempt c task s with ⟨_ | _, t⟩ <;> rfl

theorem ask_run (c : Call) (failed : CollaboratorError → ServiceError) (task : Task α) (s : Site) :
    ask c failed task s = match s.struck c with
      | some e => (.error (failed e), s.counted c)
      | none => (.ok (task (s.counted c)).1, (task (s.counted c)).2) := by
  unfold ask
  rw [call_run, attempt_run]
  cases s.struck c <;> rfl

def Glances (x : Operation α) : Prop := ∀ s, Site.Glance s (x s).2

namespace Glances

theorem pure (a : α) : Glances (Pure.pure a : Operation α) := Site.Glance.refl

theorem throw (e : ServiceError) : Glances (MonadExcept.throw e : Operation α) := Site.Glance.refl

theorem bind {x : Operation α} {f : α → Operation β} (hx : Glances x) (hf : ∀ a, Glances (f a)) :
    Glances (x >>= f) := by
  intro s
  have hs := hx s
  rw [bind_run]
  rcases hr : x s with ⟨e | a, t⟩
  · simpa [hr] using hs
  · rw [hr] at hs
    exact hs.trans (hf a t)

theorem followed {x : Operation α} {f : α → Operation β} {P : Except ServiceError β → Site → Prop}
    (hx : Glances x) (s : Site) (herror : ∀ e t, s.Glance t → P (.error e) t)
    (hok : ∀ a t, s.Glance t → P (f a t).1 (f a t).2) : P ((x >>= f) s).1 ((x >>= f) s).2 := by
  have hs := hx s
  rw [bind_run]
  rcases hr : x s with ⟨e | a, t⟩
  · exact herror e t (by simpa [hr] using hs)
  · exact hok a t (by simpa [hr] using hs)

theorem note {level : Level} (h : level ≠ .error) (component : Component) (text : String) :
    Glances (Operation.note level component text) :=
  fun s => Site.Glance.note s h component text

theorem call (c : Call) (failed : CollaboratorError → ServiceError)
    {task : Task (Except CollaboratorError α)} (h : task.Glances) : Glances (call c failed task) := by
  intro s
  rw [call_run, attempt_run]
  cases s.struck c with
  | some e => exact .counted s c
  | none =>
      have hs := (Site.Glance.counted s c).trans (h (s.counted c))
      rcases hr : task (s.counted c) with ⟨_ | _, t⟩ <;> simpa [hr] using hs

theorem ask (c : Call) (failed : CollaboratorError → ServiceError) {task : Task α} (h : task.Glances) :
    Glances (ask c failed task) := by
  intro s
  rw [ask_run]
  cases s.struck c with
  | some e => exact .counted s c
  | none => exact (Site.Glance.counted s c).trans (h (s.counted c))

end Glances

theorem requireName_of_some {kind value : String} {fault : NameFault} (h : nameFault? value = some fault)
    (s : Site) : requireName kind value s = (.error (.invalidArgument (fault.message kind value)), s) := by
  unfold requireName
  rw [h]
  rfl

theorem requireName_of_none {kind value : String} (h : nameFault? value = none) (s : Site) :
    requireName kind value s = (.ok (), s) := by
  unfold requireName
  rw [h]
  rfl

theorem requireName_glances (kind value : String) : Glances (requireName kind value) := by
  unfold requireName
  split
  · exact .throw _
  · exact .pure _

theorem topicExists_glances (freshness : Freshness) (operation queue : String) :
    Glances (topicExists freshness operation queue) :=
  .ask _ _ (Site.existTopic_glance queue _)

theorem requireTopic_glances (freshness : Freshness) (operation queue : String) :
    Glances (requireTopic freshness operation queue) := by
  unfold requireTopic
  apply Glances.bind (topicExists_glances freshness operation queue)
  intro found
  split
  · exact .pure _
  · exact .throw _

theorem queueRecorded_glances (operation queue : String) : Glances (queueRecorded operation queue) :=
  .ask _ _ .refl

theorem queueMap_glances (failed : CollaboratorError → ServiceError) : Glances (queueMap failed) :=
  .ask _ _ .refl

theorem groupMap_glances (failed : CollaboratorError → ServiceError) : Glances (groupMap failed) :=
  .ask _ _ .refl

theorem groupConfig_glances (operation group queue : String) :
    Glances (groupConfig operation group queue) :=
  .ask _ _ .refl

end Operation

end ManagedQueue
