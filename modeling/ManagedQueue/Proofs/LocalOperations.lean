import ManagedQueue.Proofs.QueueShares
import ManagedQueue.Proofs.RecordIndexes

namespace ManagedQueue

namespace Site

variable {found : Bool} {queue other : String} {s t u : Site}

def Unfailing (s : Site) : Prop := ∀ c, s.faults c = none

/-- The sites hold the same of the queue, under the same conditions. -/
structure Same (found : Bool) (queue : String) (s t : Site) : Prop where
  unfailing : s.Unfailing
  unfailing_other : t.Unfailing
  drift : t.drift = s.drift
  gateShut : t.gateShut = s.gateShut
  backend : s.backend.Same found queue t.backend

structure Beside (other : String) (s t : Site) : Prop where
  unfailing : t.Unfailing
  drift : t.drift = s.drift
  gateShut : t.gateShut = s.gateShut
  backend : s.backend.Beside other t.backend

namespace Same

theorem refl (hs : s.Unfailing) (hb : s.backend.Counted) : s.Same found queue s := ⟨hs, hs, rfl, rfl, .refl hb⟩

theorem weaken (h : s.Same true queue t) : s.Same found queue t :=
  ⟨h.unfailing, h.unfailing_other, h.drift, h.gateShut, h.backend.weaken⟩

theorem withBackend {later : Bool} (h : s.Same found queue t) {b c : Backend} (hb : b.Same later queue c) :
    Same later queue { s with backend := b } { t with backend := c } :=
  ⟨h.unfailing, h.unfailing_other, h.drift, h.gateShut, hb⟩

theorem note (h : s.Same found queue t) (level : Level) (component : Component) (text : String) :
    Same found queue (Site.note level component text s).2 (Site.note level component text t).2 :=
  ⟨h.unfailing, h.unfailing_other, h.drift, h.gateShut, h.backend⟩

end Same

namespace Beside

theorem refl (hs : s.Unfailing) (hb : s.backend.Counted) : s.Beside other s :=
  ⟨hs, rfl, rfl, .refl hb⟩

theorem trans (h : s.Beside other t) (k : t.Beside other u) : s.Beside other u :=
  ⟨k.unfailing, k.drift.trans h.drift, k.gateShut.trans h.gateShut, h.backend.trans k.backend⟩

end Beside

end Site

/-- A task about the queue: where sites hold the same of the queue it answers alike and leaves the same of
it, and it leaves alone what is held of other queues, and the sessions that there are. -/
structure Task.Local {α : Type} (found : Bool) (queue : String) (x : Task α) : Prop where
  reads : ∀ {s t : Site}, s.Same true queue t → (x t).1 = (x s).1 ∧ (x s).2.Same found queue (x t).2
  apart : ∀ {other : String}, other ≠ queue → ∀ {s : Site}, s.Unfailing → s.backend.Counted →
    s.Beside other (x s).2
  sessions : ∀ s : Site, s.backend.transport.sessions <+: (x s).2.backend.transport.sessions

namespace Task.Local

variable {α β : Type} {found : Bool} {queue : String}

theorem pure (a : α) : Local found queue (Pure.pure a : Task α) :=
  ⟨fun h => ⟨rfl, h.weaken⟩, fun _ _ hs hb => .refl hs hb, fun _ => List.prefix_rfl⟩

theorem bind {x : Task α} {f : α → Task β} (hx : Local true queue x) (hf : ∀ a, Local found queue (f a)) :
    Local found queue (x >>= f) where
  reads {s t} h := by
    obtain ⟨hanswer, hsites⟩ := hx.reads h
    rw [bind_apply, bind_apply, hanswer]
    exact (hf _).reads hsites
  apart hother s hs hb := by
    have hfirst := hx.apart hother hs hb
    exact hfirst.trans ((hf _).apart hother hfirst.unfailing hfirst.backend.same.counted_other)
  sessions s := (hx.sessions s).trans ((hf _).sessions _)

theorem read {f : Site → α} (hf : ∀ {s t : Site}, s.Same true queue t → f t = f s) :
    Local found queue (do return f (← get) : Task α) :=
  ⟨fun h => ⟨hf h, h.weaken⟩, fun _ _ hs hb => .refl hs hb, fun _ => List.prefix_rfl⟩

theorem note (level : Level) (component : Component) (text : String) :
    Local found queue (Site.note level component text) :=
  ⟨fun h => ⟨rfl, h.weaken.note level component text⟩, fun _ _ hs hb => ⟨hs, rfl, rfl, .refl hb⟩,
    fun _ => List.prefix_rfl⟩

theorem noted {x : Task α} (hx : Local found queue x) (level : α → Level) (component : Component)
    (text : α → String) (f : α → β) : Local found queue (do
      let a ← x
      Site.note (level a) component (text a)
      return f a) where
  reads {s t} h := by
    obtain ⟨hanswer, hsites⟩ := hx.reads h
    rw [bind_apply, bind_apply, hanswer]
    exact ⟨rfl, hsites.note _ _ _⟩
  apart hother s hs hb := by
    have hfirst := hx.apart hother hs hb
    exact ⟨hfirst.unfailing, hfirst.drift, hfirst.gateShut, hfirst.backend⟩
  sessions s := hx.sessions s

end Task.Local

namespace Site

variable {found : Bool} {queue : String}

theorem Beside.withBackend {other : String} {s : Site} (hs : s.Unfailing) {b : Backend}
    (hb : s.backend.Beside other b) : s.Beside other { s with backend := b } := ⟨hs, rfl, rfl, hb⟩

theorem existTopic_local (queue : String) (force : Bool) : Task.Local true queue (existTopic queue force) := by
  have hrun (s : Site) : existTopic queue force s =
      ((s.backend.registry.exist queue force).1, { s with backend := s.backend.checked queue force }) := rfl
  constructor
  · intro s t h
    obtain ⟨hanswer, hbackend⟩ := h.backend.checked force
    rw [hrun, hrun]
    exact ⟨hanswer, h.withBackend hbackend⟩
  · intro other _ s hs hb
    exact .withBackend hs (Backend.checked_beside hb queue force)
  · exact fun _ => List.prefix_rfl

theorem changeRegistry_local (change : Registry → Except CollaboratorError Registry)
    (hreads : ∀ {b c : Backend}, b.Same true queue c →
      (∃ e, change b.registry = .error e ∧ change c.registry = .error e) ∨
      ∃ r q, change b.registry = .ok r ∧ change c.registry = .ok q ∧
        Backend.Same found queue { b with registry := r } { c with registry := q })
    (hapart : ∀ {b : Backend} {r other}, b.Counted → change b.registry = .ok r → other ≠ queue →
      b.Beside other { b with registry := r })
    (report : String) : Task.Local found queue (changeRegistry change report) := by
  constructor
  · intro s t h
    unfold changeRegistry
    simp only [bind_apply, get_apply]
    obtain ⟨e, hs, ht⟩ | ⟨r, q, hs, ht, hbackend⟩ := hreads h.backend
    · rw [hs, ht]
      exact ⟨rfl, h.weaken⟩
    · rw [hs, ht]
      exact ⟨rfl, (h.withBackend hbackend).note _ _ _⟩
  · intro other hother s hs hb
    unfold changeRegistry
    simp only [bind_apply, get_apply]
    cases hr : change s.backend.registry with
    | error e => exact .refl hs hb
    | ok r => exact ⟨hs, rfl, rfl, hapart hb hr hother⟩
  · intro s
    unfold changeRegistry
    simp only [bind_apply, get_apply]
    cases change s.backend.registry <;> exact List.prefix_rfl

theorem createTopic_local (queue : String) (layout : Layout) (address : String) :
    Task.Local true queue (createTopic queue layout address) :=
  changeRegistry_local (·.create queue layout) (fun h => h.create layout)
    (fun hb hr hother => Backend.create_beside hb hr hother) _

theorem deleteTopic_local (queue address : String) : Task.Local false queue (deleteTopic queue address) :=
  changeRegistry_local (·.delete queue) (fun h => h.delete)
    (fun hb hr hother => Backend.delete_beside hb hr hother) _

theorem changeMetadata_local {change : Backend → Except CollaboratorError Metadata}
    (hchange : Metadata.ChangesEntry queue change) : Task.Local true queue (changeMetadata change) := by
  obtain ⟨f, hf⟩ := hchange
  constructor
  · intro s t h
    rw [changeMetadata_run, changeMetadata_run, hf, hf, h.backend.entry, h.backend.clock]
    cases f (s.backend.metadata.queues.get? queue) s.backend.clock with
    | error e => exact ⟨rfl, h⟩
    | ok entry => exact ⟨rfl, h.withBackend (h.backend.withEntry entry)⟩
  · intro other hother s hs hb
    rw [changeMetadata_run, hf]
    cases f (s.backend.metadata.queues.get? queue) s.backend.clock with
    | error e => exact .refl hs hb
    | ok entry => exact .withBackend hs (Backend.withEntry_beside hb hother entry)
  · intro s
    rw [changeMetadata_run]
    cases change s.backend <;> exact List.prefix_rfl

theorem attach_run (queue : String) (s : Site) : ∃ journal, attach queue s =
    match s.backend.registry.incarnation? queue with
    | none => (.error (.missingTopic queue), s)
    | some i => (.ok (), { s.withTransport (s.backend.transport.bind queue i) with journal }) := by
  unfold attach
  rw [bind_apply, get_apply]
  cases s.backend.registry.incarnation? queue with
  | none => exact ⟨[], rfl⟩
  | some i =>
      simp only [bind_apply]
      cases s.backend.transport.isStale queue i with
      | false => exact ⟨_, rfl⟩
      | true => exact ⟨_, rfl⟩

def onLog {α : Type} (queue : String) (act : Transport → α × Transport) :
    Task (Except CollaboratorError α) := do
  match ← attach queue with
  | .error e => return .error e
  | .ok () =>
    let (answer, transport) := act (← get).backend.transport
    setTransport transport
    return .ok answer

theorem onLog_run {α : Type} (queue : String) (act : Transport → α × Transport) (s : Site) :
    ∃ journal, onLog queue act s =
      match s.backend.registry.incarnation? queue with
      | none => (.error (.missingTopic queue), s)
      | some i => (.ok (act (s.backend.transport.bind queue i)).1,
          { s.withTransport (act (s.backend.transport.bind queue i)).2 with journal }) := by
  obtain ⟨journal, hrun⟩ := attach_run queue s
  refine ⟨journal, ?_⟩
  unfold onLog
  rw [bind_apply, hrun]
  cases s.backend.registry.incarnation? queue <;> rfl

structure ReadsLog {α : Type} (queue : String) (act : Transport → α × Transport) : Prop where
  same : ∀ {b c : Backend} {i j : Nat}, b.Same true queue c → b.registry.incarnation? queue = some i →
    c.registry.incarnation? queue = some j →
    (act (c.transport.bind queue j)).1 = (act (b.transport.bind queue i)).1 ∧
      Backend.Same true queue { b with transport := (act (b.transport.bind queue i)).2 }
        { c with transport := (act (c.transport.bind queue j)).2 }
  touches : ∀ (t : Transport) (i : Nat), Transport.Touches queue i t (act (t.bind queue i)).2
  sessions : ∀ t : Transport, t.sessions <+: (act t).2.sessions

theorem onLog_local {α : Type} {act : Transport → α × Transport} (hact : ReadsLog queue act) :
    Task.Local true queue (onLog queue act) := by
  constructor
  · intro s t h
    obtain ⟨journal, hs⟩ := onLog_run queue act s
    obtain ⟨journal', ht⟩ := onLog_run queue act t
    rw [hs, ht]
    -- The topic has an incarnation at both or at neither, if not the same one.
    obtain ⟨hi, hj⟩ | ⟨i, j, hi, hj⟩ := h.backend.topic
    · rw [hi, hj]
      exact ⟨rfl, h⟩
    · rw [hi, hj]
      obtain ⟨hanswer, hbackend⟩ := hact.same h.backend hi hj
      exact ⟨congrArg Except.ok hanswer, h.unfailing, h.unfailing_other, h.drift, h.gateShut, hbackend⟩
  · intro other hother s hs hb
    obtain ⟨journal, hrun⟩ := onLog_run queue act s
    rw [hrun]
    cases hi : s.backend.registry.incarnation? queue with
    | none => exact .refl hs hb
    | some i => exact ⟨hs, rfl, rfl, Backend.touched_beside hb hi (hact.touches _ i) hother⟩
  · intro s
    obtain ⟨journal, hrun⟩ := onLog_run queue act s
    rw [hrun]
    cases s.backend.registry.incarnation? queue with
    | none => exact List.prefix_rfl
    | some i => exact hact.sessions (s.backend.transport.bind queue i)

theorem produce_local (queue : String) (payload : Payload) : Task.Local true queue (produce queue payload) := by
  have hact : ReadsLog queue fun t => ((), t.append queue payload) :=
    ⟨fun h hi hj => ⟨rfl, h.appended hi hj payload⟩, fun t i => (Transport.bind_touches t queue i).append payload,
      fun _ => List.prefix_rfl⟩
  exact onLog_local hact

theorem take_local (queue group : String) : Task.Local true queue (onLog queue (·.take queue group)) := by
  refine onLog_local ⟨fun h hi hj => h.taken hi hj group, fun t i => (Transport.bind_touches t queue i).take group,
    fun t => ?_⟩
  obtain ⟨n, hn⟩ := Transport.take_setOffset t queue group
  rw [hn]
  exact List.prefix_rfl

/-- A session is opened; which number it gets is left out. -/
def opening (addresses : List String) (queue group : String) : Task (Except CollaboratorError Unit) := do
  return (← openSession addresses queue group).map fun _ => ()

theorem openSession_run (addresses : List String) (queue group : String) (s : Site) : ∃ journal,
    openSession addresses queue group s =
      if addresses.isEmpty then (.error ⟨.unavailable, "no broker addresses configured"⟩, s)
      else match s.backend.registry.incarnation? queue with
        | none => (.error (.missingTopic queue), s)
        | some i => (.ok s.backend.transport.sessions.length,
            { s.withTransport ((s.backend.transport.bind queue i).openSession queue group).2 with journal }) := by
  obtain ⟨journal, hrun⟩ := attach_run queue s
  unfold openSession
  cases addresses.isEmpty with
  | true => exact ⟨[], rfl⟩
  | false =>
      simp only [Bool.false_eq_true, if_false, bind_apply]
      rw [hrun]
      cases s.backend.registry.incarnation? queue with
      | none => exact ⟨[], rfl⟩
      | some i => exact ⟨_, rfl⟩

theorem opening_run (addresses : List String) (queue group : String) (s : Site) : ∃ journal,
    opening addresses queue group s =
      if addresses.isEmpty then (.error ⟨.unavailable, "no broker addresses configured"⟩, s)
      else match s.backend.registry.incarnation? queue with
        | none => (.error (.missingTopic queue), s)
        | some i => (.ok (),
            { s.withTransport ((s.backend.transport.bind queue i).openSession queue group).2 with journal }) := by
  obtain ⟨journal, hrun⟩ := openSession_run addresses queue group s
  refine ⟨journal, ?_⟩
  unfold opening
  rw [bind_apply, hrun]
  split
  · rfl
  · cases s.backend.registry.incarnation? queue <;> rfl

theorem opening_local (addresses : List String) (queue group : String) :
    Task.Local true queue (opening addresses queue group) := by
  refine ⟨fun {s t} h => ?_, fun hother s hs hb => ?_, fun s => ?_⟩
  · obtain ⟨journal, hs⟩ := opening_run addresses queue group s
    obtain ⟨journal', ht⟩ := opening_run addresses queue group t
    rw [hs, ht]
    split
    · exact ⟨rfl, h⟩
    · obtain ⟨hi, hj⟩ | ⟨i, j, hi, hj⟩ := h.backend.topic
      · rw [hi, hj]
        exact ⟨rfl, h⟩
      · rw [hi, hj]
        refine ⟨rfl, h.unfailing, h.unfailing_other, h.drift, h.gateShut, ?_⟩
        exact (h.backend.attached hi hj).withSessions _ _ _ _
  · obtain ⟨journal, hrun⟩ := opening_run addresses queue group s
    rw [hrun]
    split
    · exact .refl hs hb
    · cases hi : s.backend.registry.incarnation? queue with
      | none => exact .refl hs hb
      | some i =>
          have hbound := Backend.touched_beside hb hi (Transport.bind_touches _ queue i) hother
          exact ⟨hs, rfl, rfl, hbound.trans (Backend.withSessions_beside hbound.same.counted_other _ _)⟩
  · obtain ⟨journal, hrun⟩ := opening_run addresses queue group s
    rw [hrun]
    split
    · exact List.prefix_rfl
    · cases s.backend.registry.incarnation? queue with
      | none => exact List.prefix_rfl
      | some i => exact List.prefix_append _ _

theorem record_local (direction : Direction) (queue group : String) (count : UInt64) :
    Task.Local true queue (record direction queue group count) where
  reads {s t} h := by
    have hbackend := h.backend.recorded direction group ⟨s.backend.clock, count⟩
    refine ⟨rfl, h.withBackend ?_⟩
    rw [h.backend.clock]
    exact hbackend
  apart hother s hs hb := .withBackend hs (Backend.record_beside hb direction group _ hother)
  sessions _ := List.prefix_rfl

theorem query_run (direction : Direction) (queue group : String) (w : Window) (s : Site) :
    query direction queue group w s =
      (match s.backend.metrics.query direction queue group w with
        | some series => .ok series
        | none => .error ⟨.internal, s!"invalid window [{w.start}, {w.stop}) with {w.buckets} buckets"⟩, s) := by
  unfold query
  rw [bind_apply, get_apply]
  cases s.backend.metrics.query direction queue group w <;> rfl

theorem query_local (direction : Direction) (queue group : String) (w : Window) :
    Task.Local true queue (query direction queue group w) := by
  refine ⟨fun h => ?_, fun _ s hs hb => ?_, fun s => by simp [query_run]⟩
  · rw [query_run, query_run, h.backend.query]
    exact ⟨rfl, h⟩
  · rw [query_run]
    exact .refl hs hb

theorem existQueue_local (queue : String) : Task.Local true queue (existQueue queue) :=
  .read fun h => by rw [Metadata.exist, Metadata.exist, Table.contains, Table.contains, h.backend.entry]

theorem queueCreateTime_local (queue : String) : Task.Local true queue (queueCreateTime queue) :=
  .read fun h => by rw [Metadata.createTime, Metadata.createTime, h.backend.entry]

theorem groupConfig_local (group queue : String) : Task.Local true queue (groupConfig group queue) :=
  .read fun h => by rw [Metadata.record?, Metadata.record?, h.backend.entry]

end Site

namespace Operation

variable {α β : Type} {found : Bool} {queue : String}

def Local (found : Bool) (queue : String) (x : Operation α) : Prop :=
  Task.Local (α := Except ServiceError α) found queue x

namespace Local

theorem pure (a : α) : Local found queue (Pure.pure a : Operation α) := Task.Local.pure (Except.ok a)

theorem throw (e : ServiceError) : Local found queue (MonadExcept.throw e : Operation α) :=
  Task.Local.pure (Except.error e)

theorem bind {x : Operation α} {f : α → Operation β} (hx : Local true queue x)
    (hf : ∀ a, Local found queue (f a)) : Local found queue (x >>= f) := by
  refine Task.Local.bind (f := ExceptT.bindCont f) hx fun answer => ?_
  cases answer with
  | error e => exact Task.Local.pure (Except.error e)
  | ok a => exact hf a

theorem lift {task : Task α} (h : task.Local true queue) : Local true queue (liftM task : Operation α) :=
  Task.Local.bind h fun a => Task.Local.pure (Except.ok a)

theorem note (level : Level) (component : Component) (text : String) :
    Local true queue (Operation.note level component text) := .lift (.note level component text)

end Local

theorem attempt_unfailing {s : Site} (h : s.Unfailing) (c : Call) (task : Task (Except CollaboratorError α)) :
    attempt c task s = task s :=
  attempt_unplanned (h c) task

theorem attempt_local (c : Call) {task : Task (Except CollaboratorError α)} (h : task.Local found queue) :
    (attempt c task).Local found queue := by
  refine ⟨fun hst => ?_, fun hother s hs hb => ?_, fun s => ?_⟩
  · rw [attempt_unfailing hst.unfailing, attempt_unfailing hst.unfailing_other]
    exact h.reads hst
  · rw [attempt_unfailing hs]
    exact h.apart hother hs hb
  · rw [attempt_run]
    cases s.struck c with
    | some e => exact List.prefix_rfl
    | none => exact h.sessions (s.counted c)

namespace Local

theorem call (c : Call) (failed : CollaboratorError → ServiceError)
    {task : Task (Except CollaboratorError α)} (h : task.Local true queue) :
    Local true queue (call c failed task) := by
  refine .bind (.lift (attempt_local c h)) fun answer => ?_
  cases answer with
  | ok a => exact .pure a
  | error e => exact .throw _

theorem ask (c : Call) (failed : CollaboratorError → ServiceError) {task : Task α}
    (h : task.Local true queue) : Local true queue (ask c failed task) :=
  .call c failed (.bind h fun a => .pure (Except.ok a))

end Local

theorem requireName_local (queue kind value : String) : Local true queue (requireName kind value) := by
  unfold requireName
  split
  · exact .throw _
  · exact .pure _

theorem topicExists_local (freshness : Freshness) (op queue : String) :
    Local true queue (topicExists freshness op queue) := .ask _ _ (Site.existTopic_local queue _)

theorem requireTopic_local (freshness : Freshness) (op queue : String) :
    Local true queue (requireTopic freshness op queue) := by
  refine .bind (topicExists_local freshness op queue) fun found => ?_
  cases found with
  | true => exact .pure _
  | false => exact .throw _

theorem queueRecorded_local (op queue : String) : Local true queue (queueRecorded op queue) :=
  .ask _ _ (Site.existQueue_local queue)

theorem groupConfig_local (op group queue : String) : Local true queue (groupConfig op group queue) :=
  .ask _ _ (Site.groupConfig_local group queue)

theorem queueIndex_same {s t : Site} (h : s.Same found queue t) :
    (queueIndex t).get? queue = (queueIndex s).get? queue := by
  have hindex (s : Site) : queueIndex s = Metadata.gathered s.drift s.backend.metadata.queueMap := rfl
  have hqueue : t.backend.metadata.queueMap.get? queue = s.backend.metadata.queueMap.get? queue := by
    unfold Metadata.queueMap
    rw [Table.get?_mapValues, Table.get?_mapValues, h.backend.entry]
  rw [hindex, hindex, h.drift]
  exact Metadata.gathered_congr hqueue s.drift

theorem queueMap_local (failed : CollaboratorError → ServiceError) {absent : Operation β}
    {present : List String → Operation β} (habsent : Local found queue absent)
    (hpresent : ∀ groups, Local found queue (present groups)) :
    Local found queue (queueMap failed >>= fun index => match index.get? queue with
      | none => absent
      | some groups => present groups) := by
  have hentry : Local found queue (ask .queueMap failed (return (queueIndex (← get)).get? queue) >>= fun groups =>
      groups.elim absent present) := by
    refine .bind (.ask _ _ (.read queueIndex_same)) fun groups => ?_
    cases groups with
    | none => exact habsent
    | some groups => exact hpresent groups
  convert hentry using 1
  funext s
  unfold queueMap
  rw [bind_run, bind_run, ask_run, ask_run]
  cases s.struck .queueMap with
  | some e => rfl
  | none =>
      simp only [bind_apply, get_apply, pure_apply]
      cases (queueIndex (s.counted .queueMap)).get? queue <;> rfl

end Operation

open Operation

namespace Lifecycle

theorem recordNew_local (queue : String) : Local true queue (recordNew queue) := by
  refine .bind (requireName_local _ _ _) fun _ => .bind (topicExists_local _ _ _) fun found => ?_
  cases found with
  | true => exact .throw _
  | false =>
      refine .bind (queueRecorded_local _ _) fun recorded => ?_
      cases recorded with
      | true => exact .throw _
      | false => exact .call _ _ (Site.changeMetadata_local (Metadata.addQueue_changesEntry queue))

theorem secondWrite_local {found : Bool} (c : Call) (op queue : String)
    {task : Task (Except CollaboratorError Unit)} (complaint : CollaboratorError → String) (report : String)
    (h : task.Local found queue) : Local found queue (secondWrite c op queue task complaint report) := by
  have hrun : secondWrite c op queue task complaint report = (do
      let answer ← attempt c task
      Site.note (if answer.isOk then .info else .error) .lifecycle
        (match answer with
          | .error e => complaint e
          | .ok () => report)
      return answer.mapError (.collaborator op queue none) : Task (Except ServiceError Unit)) := by
    funext s
    unfold secondWrite
    rw [lift_bind_run, bind_apply]
    rcases attempt c task s with ⟨e | ⟨⟩, t⟩ <;> rfl
  unfold Local
  rw [hrun]
  exact (attempt_local c h).noted _ _ _ _

theorem create_local (settings : Settings) (queue : String) : Local true queue (create settings queue) :=
  .bind (recordNew_local queue) fun _ =>
    secondWrite_local _ _ _ _ _ (Site.createTopic_local queue settings.layout settings.registryAddress)

theorem update_local (queue : String) : Local true queue (update queue) :=
  .bind (requireName_local _ _ _) fun _ => requireTopic_local _ _ _

theorem unrecord_local (queue : String) : Local true queue (unrecord queue) := by
  refine .bind (requireName_local _ _ _) fun _ => .bind (requireTopic_local _ _ _) fun _ =>
    .bind (queueRecorded_local _ _) fun recorded => ?_
  cases recorded with
  | false => exact .throw _
  | true => exact .call _ _ (Site.changeMetadata_local (Metadata.deleteQueue_changesEntry queue))

theorem delete_local (settings : Settings) (queue : String) : Local false queue (delete settings queue) :=
  .bind (unrecord_local queue) fun _ =>
    secondWrite_local _ _ _ _ _ (Site.deleteTopic_local queue settings.registryAddress)

theorem groupConfigs_local (op queue : String) (groups : List String) :
    Local true queue (groupConfigs op queue groups) := by
  induction groups with
  | nil => exact .pure _
  | cons group groups ih =>
      refine .bind (groupConfig_local _ _ _) fun record => ?_
      cases record with
      | some record => exact .bind ih fun _ => .pure _
      | none => exact .bind (.note _ _ _) fun _ => ih

theorem queueInfo_local (op queue : String) (groups : List GroupConfig) :
    Local true queue (queueInfo op queue groups) :=
  .bind (.call _ _ (Site.queueCreateTime_local queue)) fun _ => .pure _

theorem lookup_local {queue : String} (hqueue : queue ≠ "") (group : String) :
    Local true queue (lookup queue group) := by
  refine .bind (.note _ _ _) fun _ => ?_
  rw [if_neg (by simpa using hqueue)]
  split
  · refine queueMap_local _ (.pure _) fun groups => ?_
    exact .bind (groupConfigs_local _ _ _) fun _ => .bind (queueInfo_local _ _ _) fun _ =>
      .bind (.pure _) fun _ => .pure _
  · refine .bind (queueRecorded_local _ _) fun recorded => ?_
    cases recorded with
    | false => exact .pure _
    | true => exact .bind (groupConfig_local _ _ _) fun _ => .bind (queueInfo_local _ _ _) fun _ => .pure _

end Lifecycle

namespace Groups

theorem checkNames_local (op group queue : String) : Local true queue (checkNames op group queue) :=
  .bind (requireName_local _ _ _) fun _ => .bind (requireName_local _ _ _) fun _ => requireTopic_local _ _ _

theorem add_local (group queue : String) (access : Access) : Local true queue (add group queue access) :=
  .bind (checkNames_local _ _ _) fun _ => .bind
    (.call _ _ (Site.changeMetadata_local (Metadata.addGroup_changesEntry (.ofAccess group queue access))))
    fun _ => .note _ _ _

theorem update_local (group queue : String) (access : Access) :
    Local true queue (update group queue access) :=
  .bind (checkNames_local _ _ _) fun _ => .bind
    (.call _ _ (Site.changeMetadata_local (Metadata.updateGroup_changesEntry (.ofAccess group queue access))))
    fun _ => .note _ _ _

theorem delete_local (group queue : String) : Local true queue (delete group queue) :=
  .bind (checkNames_local _ _ _) fun _ => .bind
    (.call _ _ (Site.changeMetadata_local (Metadata.deleteGroup_changesEntry group queue)))
    fun _ => .note _ _ _

theorem single_local (group queue : String) : Local true queue (single group queue) :=
  .bind (checkNames_local _ _ _) fun _ => .bind (groupConfig_local _ _ _) fun _ =>
    .bind (.note _ _ _) fun _ => .pure _

end Groups

namespace Volume

theorem requireWindow_local (queue : String) (w : Window) : Local true queue (requireWindow w) := by
  unfold requireWindow
  split
  · exact .throw _
  · exact .pure _

theorem query_local (direction : Direction) (queue group : String) (w : Window) :
    Local true queue (query direction queue group w) := by
  refine .bind (requireName_local _ _ _) fun _ => ?_
  extract_lets context afterNames
  have hrest (u : Unit) : Local true queue (afterNames u) :=
    .bind (requireWindow_local queue w) fun _ => .bind (requireTopic_local _ _ _) fun _ =>
      .bind (.call _ _ (Site.query_local direction queue group w)) fun _ =>
        .bind (.note _ _ _) fun _ => .pure _
  split
  · exact .bind (requireName_local _ _ _) hrest
  · exact hrest ()

end Volume

namespace Host

theorem send_local (queue group : String) (payload : Payload) : Local true queue (send queue group payload) :=
  .bind (requireName_local _ _ _) fun _ => .bind (requireName_local _ _ _) fun _ =>
    .bind (requireTopic_local _ _ _) fun _ => .bind (.call _ _ (Site.produce_local queue payload)) fun _ =>
      .bind (.lift (Site.record_local .send queue group 1)) fun _ => .note _ _ _

theorem checkReceive_local (queue group : String) : Local true queue (checkReceive queue group) :=
  .bind (requireName_local _ _ _) fun _ => .bind (requireName_local _ _ _) fun _ => requireTopic_local _ _ _

end Host

end ManagedQueue
