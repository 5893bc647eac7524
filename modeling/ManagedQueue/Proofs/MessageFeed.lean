import ManagedQueue.Proofs.QueueWrites
import ManagedQueue.Proofs.MessageTasks

namespace ManagedQueue

inductive Happening where
  | created (queue : String)
  | deleted (queue : String)
  | sent (queue : String) (payload : Payload)
  | received (queue group : String) (payload : Payload)
deriving DecidableEq

def Happening.Concerns (queue group : String) : Happening → Prop
  | .created q | .deleted q | .sent q _ => q = queue
  | .received q g _ => q = queue ∧ g = group

/-- The messages of a queue that has a topic, and the place of the group in them. Happenings change
both in this way only. -/
inductive Feed (queue group : String) :
    Option (List Payload × Nat) → List Happening → Option (List Payload × Nat) → Prop
  | done (s) : Feed queue group s [] s
  | created {H t} (h : Feed queue group (some ([], 0)) H t) :
      Feed queue group none (.created queue :: H) t
  | deleted {s H t} (h : Feed queue group none H t) :
      Feed queue group (some s) (.deleted queue :: H) t
  | sent {log n payload H t} (h : Feed queue group (some (log ++ [payload], n)) H t) :
      Feed queue group (some (log, n)) (.sent queue payload :: H) t
  | received {log n payload H t} (hp : log[n]? = some payload)
      (h : Feed queue group (some (log, n + 1)) H t) :
      Feed queue group (some (log, n)) (.received queue group payload :: H) t
  | aside {s x H t} (hx : ¬ x.Concerns queue group) (h : Feed queue group s H t) :
      Feed queue group s (x :: H) t

theorem Feed.append {queue group : String} {s t u : Option (List Payload × Nat)}
    {H K : List Happening} (h : Feed queue group s H t) (k : Feed queue group t K u) :
    Feed queue group s (H ++ K) u := by
  induction h with
  | done => exact k
  | created _ ih => exact .created (ih k)
  | deleted _ ih => exact .deleted (ih k)
  | sent _ ih => exact .sent (ih k)
  | received hp _ ih => exact .received hp (ih k)
  | aside hx _ ih => exact .aside hx (ih k)

theorem Feed.of_aside {queue group : String} {s : Option (List Payload × Nat)} {H : List Happening}
    (hH : ∀ x ∈ H, ¬ x.Concerns queue group) : Feed queue group s H s := by
  induction H with
  | nil => exact .done s
  | cons x H ih => exact .aside (hH x (.head _)) (ih fun y hy => hH y (.tail _ hy))

theorem Feed.eq_of_nil {queue group : String} {s t : Option (List Payload × Nat)}
    (h : Feed queue group s [] t) : t = s := by
  cases h
  rfl

namespace Transport

/-- The log and the offset as they are once the queue is bound to the incarnation. -/
def feed (t : Transport) (queue group : String) (incarnation : Nat) : List Payload × Nat :=
  if t.isStale queue incarnation then ([], 0) else (t.log queue, t.offset queue group)

variable {t u : Transport} {queue group : String} {incarnation : Nat}

theorem isStale_bind (t : Transport) (queue : String) (incarnation : Nat) :
    (t.bind queue incarnation).isStale queue incarnation = false := by
  simp [isStale, bind]

theorem feed_bind (t : Transport) (queue group : String) (incarnation : Nat) :
    (t.bind queue incarnation).feed queue group incarnation = t.feed queue group incarnation := by
  unfold feed
  rw [isStale_bind]
  cases hs : t.isStale queue incarnation with
  | true => simp [bind, hs, log, offset, groupOffsets, Table.getD]
  | false => simp [bind, hs, log, offset, groupOffsets]

structure Agrees (queue : String) (t u : Transport) : Prop where
  binding : u.bindings.get? queue = t.bindings.get? queue
  log : u.logs.get? queue = t.logs.get? queue
  offsets : u.offsets.get? queue = t.offsets.get? queue

theorem Agrees.trans {v : Transport} (h : Agrees queue t u) (k : Agrees queue u v) : Agrees queue t v :=
  ⟨k.binding.trans h.binding, k.log.trans h.log, k.offsets.trans h.offsets⟩

theorem Agrees.feed (h : Agrees queue t u) (group : String) (incarnation : Nat) :
    u.feed queue group incarnation = t.feed queue group incarnation := by
  have hstale : u.isStale queue incarnation = t.isStale queue incarnation := by
    rw [isStale, isStale, h.binding]
  have hlog : u.log queue = t.log queue := by
    rw [Transport.log, Transport.log, Table.getD, Table.getD, h.log]
  have hoffset : u.offset queue group = t.offset queue group := by
    rw [offset, offset, groupOffsets, groupOffsets, Table.getD, Table.getD, Table.getD, Table.getD,
      h.offsets]
  rw [Transport.feed, Transport.feed, hstale, hlog, hoffset]

theorem bind_agrees {name : String} (h : queue ≠ name) (t : Transport) (incarnation : Nat) :
    Agrees queue t (t.bind name incarnation) := by
  constructor
  · simp [bind, Table.get?_insert, h]
  · cases hs : t.isStale name incarnation <;> simp [bind, hs, Table.get?_erase, h]
  · cases hs : t.isStale name incarnation <;> simp [bind, hs, Table.get?_erase, h]

theorem append_agrees {name : String} (h : queue ≠ name) (t : Transport) (payload : Payload) :
    Agrees queue t (t.append name payload) :=
  ⟨rfl, by simp [append, wake, Table.get?_insert, h], rfl⟩

theorem setOffset_agrees {name : String} (h : queue ≠ name) (t : Transport) (group : String) (n : Nat) :
    Agrees queue t (t.setOffset name group n) :=
  ⟨rfl, rfl, by simp [setOffset, Table.get?_insert, h]⟩

theorem feed_of_bound (h : t.isStale queue incarnation = false) (group : String) :
    t.feed queue group incarnation = (t.log queue, t.offset queue group) := by
  rw [feed, h]
  rfl

theorem feed_append (h : t.isStale queue incarnation = false) (group : String) (payload : Payload) :
    (t.append queue payload).feed queue group incarnation =
      (t.log queue ++ [payload], t.offset queue group) := by
  rw [feed_of_bound (t := t.append queue payload) h]
  simp [append, wake, log, offset, groupOffsets, Table.getD]

theorem feed_setOffset (h : t.isStale queue incarnation = false) (group name : String) (n : Nat) :
    (t.setOffset queue name n).feed queue group incarnation =
      (t.log queue, if group = name then n else t.offset queue group) := by
  rw [feed_of_bound (t := t.setOffset queue name n) h]
  simp only [setOffset, log, offset, groupOffsets, Table.getD, Table.get?_insert_self, Option.getD_some,
    Table.get?_insert]
  by_cases hg : group = name <;> simp [hg]

theorem take_none (h : (t.log queue)[t.offset queue group]? = none) :
    t.take queue group = (none, t.setOffset queue group (t.offset queue group)) := by
  simp [take, h]

theorem take_some {payload : Payload} (h : (t.log queue)[t.offset queue group]? = some payload) :
    t.take queue group = (some payload, t.setOffset queue group (t.offset queue group + 1)) := by
  simp [take, h]

theorem take_fst (t : Transport) (queue group : String) :
    (t.take queue group).1 = (t.log queue)[t.offset queue group]? := by
  unfold take
  dsimp only
  split <;> simp [*]

theorem take_setOffset (t : Transport) (queue group : String) :
    ∃ n, (t.take queue group).2 = t.setOffset queue group n := by
  unfold take
  dsimp only
  split <;> exact ⟨_, rfl⟩

theorem isStale_of_unbound (h : t.bindings.get? queue = none) (incarnation : Nat) :
    t.isStale queue incarnation = false := by
  simp [isStale, h]

/-- Only what is held of one queue differs, and that queue is bound. -/
structure Touches (queue : String) (incarnation : Nat) (t u : Transport) : Prop where
  bound : u.bindings.get? queue = some incarnation
  others : ∀ {q}, q ≠ queue → Agrees q t u

theorem bind_touches (t : Transport) (queue : String) (incarnation : Nat) :
    Touches queue incarnation t (t.bind queue incarnation) :=
  ⟨Table.get?_insert_self _ _ _, fun hq => bind_agrees hq t incarnation⟩

theorem Touches.append (h : Touches queue incarnation t u) (payload : Payload) :
    Touches queue incarnation t (u.append queue payload) :=
  ⟨h.bound, fun hq => (h.others hq).trans (append_agrees hq u payload)⟩

theorem Touches.take (h : Touches queue incarnation t u) (group : String) :
    Touches queue incarnation t (u.take queue group).2 := by
  obtain ⟨n, hn⟩ := take_setOffset u queue group
  rw [hn]
  exact ⟨h.bound, fun hq => (h.others hq).trans (setOffset_agrees hq u group n)⟩

end Transport

namespace Registry

variable {r r' : Registry} {name : String}

theorem isSome_incarnation (r : Registry) (name : String) :
    (r.incarnation? name).isSome = r.topics.contains name := by
  simp [incarnation?, Table.contains]

theorem incarnation_of_missing (h : r.topics.contains name = false) : r.incarnation? name = none := by
  rw [← isSome_incarnation] at h
  exact Option.isNone_iff_eq_none.mp (Option.isSome_eq_false_iff.mp h)

theorem incarnation_of_live (h : r.topics.contains name) : ∃ i, r.incarnation? name = some i := by
  rw [← isSome_incarnation] at h
  exact Option.isSome_iff_exists.mp h

theorem live_of_incarnation {i : Nat} (h : r.incarnation? name = some i) : r.topics.contains name := by
  rw [← isSome_incarnation, h]
  rfl

theorem create_incarnation {layout : Layout} (h : r.create name layout = .ok r') :
    r.incarnation? name = none ∧ r'.nextIncarnation = r.nextIncarnation + 1 ∧
      ∀ queue, r'.incarnation? queue = if queue = name then some r.nextIncarnation
        else r.incarnation? queue := by
  unfold create at h
  split at h
  · cases h
  · next hfree =>
    cases h
    rw [Table.contains, Option.not_isSome_iff_eq_none] at hfree
    refine ⟨by simp [incarnation?, hfree], rfl, fun queue => ?_⟩
    unfold incarnation?
    rw [Table.get?_insert]
    by_cases hq : queue = name <;> simp [hq]

theorem delete_incarnation (h : r.delete name = .ok r') :
    (∃ i, r.incarnation? name = some i) ∧ r'.nextIncarnation = r.nextIncarnation ∧
      ∀ queue, r'.incarnation? queue = if queue = name then none else r.incarnation? queue := by
  unfold delete at h
  split at h
  · next hfound =>
    cases h
    obtain ⟨topic, htopic⟩ := Option.isSome_iff_exists.mp hfound
    refine ⟨⟨topic.incarnation, by simp [incarnation?, htopic]⟩, rfl, fun queue => ?_⟩
    unfold incarnation?
    rw [Table.get?_erase]
    by_cases hq : queue = name <;> simp [hq]
  · cases h

end Registry

/-- What is saved of the queue for the group. -/
def Snapshot.kept (s : Snapshot) (queue group : String) : List Payload × Nat :=
  (s.logs.getD queue [], (s.offsets.getD queue ∅).getD group 0)

namespace Backend

def feed (b : Backend) (queue group : String) : Option (List Payload × Nat) :=
  (b.registry.incarnation? queue).map (b.transport.feed queue group)

/-- Incarnations are numbered as they come, and of a queue that was never bound there is what was
saved of it. -/
structure Numbered (saved : Snapshot) (b : Backend) : Prop where
  topics : ∀ {queue i}, b.registry.incarnation? queue = some i → i < b.registry.nextIncarnation
  bindings : ∀ {queue i}, b.transport.bindings.get? queue = some i → i < b.registry.nextIncarnation
  unbound : ∀ {queue}, b.transport.bindings.get? queue = none →
    b.transport.logs.get? queue = saved.logs.get? queue ∧
      b.transport.offsets.get? queue = saved.offsets.get? queue

theorem restore_numbered (s : Snapshot) (clock : Int64) : (s.restore clock).Numbered s where
  topics {queue i} h := by
    simp only [Registry.incarnation?, Snapshot.restore, Registry.restore, Table.get?_mapValues,
      Option.map_map, Option.map_eq_some_iff] at h
    obtain ⟨e, he, rfl⟩ := h
    have hlt := Table.lt_of_get?_numbered he
    rw [Nat.add_comm] at hlt
    exact hlt
  bindings h := by simp [Snapshot.restore] at h
  unbound _ := ⟨rfl, rfl⟩

/-- What a new topic of the queue starts with: nothing once the queue has been bound, and until then
what was saved of it. -/
def inheritance (saved : Snapshot) (b : Backend) (queue group : String) : List Payload × Nat :=
  if b.transport.bindings.contains queue then ([], 0) else saved.kept queue group

namespace Numbered

variable {saved : Snapshot} {b c : Backend} {queue : String} {i : Nat}

theorem feed_unbound (hb : b.Numbered saved) (hnone : b.transport.bindings.get? queue = none)
    (group : String) (i : Nat) : b.transport.feed queue group i = saved.kept queue group := by
  obtain ⟨hlog, hoffsets⟩ := hb.unbound hnone
  rw [Transport.feed_of_bound (Transport.isStale_of_unbound hnone i)]
  simp only [Transport.log, Transport.offset, Transport.groupOffsets, Table.getD, hlog, hoffsets,
    Snapshot.kept]

theorem feed_next (hb : b.Numbered saved) (queue group : String) :
    b.transport.feed queue group b.registry.nextIncarnation = b.inheritance saved queue group := by
  unfold inheritance Table.contains
  cases hbound : b.transport.bindings.get? queue with
  | none => exact hb.feed_unbound hbound group _
  | some i =>
      have hne : i ≠ b.registry.nextIncarnation := Nat.ne_of_lt (hb.bindings hbound)
      simp [Transport.feed, Transport.isStale, hbound, hne]

theorem agrees (hb : b.Numbered saved) (htopics : c.registry.topics = b.registry.topics)
    (hnext : c.registry.nextIncarnation = b.registry.nextIncarnation)
    (h : ∀ queue, Transport.Agrees queue b.transport c.transport) : c.Numbered saved where
  topics hi := by
    rw [Registry.incarnation?, htopics] at hi
    rw [hnext]
    exact hb.topics hi
  bindings {queue i} hi := by
    rw [(h queue).binding] at hi
    rw [hnext]
    exact hb.bindings hi
  unbound {queue} hq := by
    rw [(h queue).binding] at hq
    rw [(h queue).log, (h queue).offsets]
    exact hb.unbound hq

theorem touches (hb : b.Numbered saved) (hi : b.registry.incarnation? queue = some i) {u : Transport}
    (h : Transport.Touches queue i b.transport u) : Numbered saved { b with transport := u } where
  topics := hb.topics
  bindings {q j} hj := by
    by_cases hq : q = queue
    · subst hq
      rw [h.bound] at hj
      cases hj
      exact hb.topics hi
    · rw [(h.others hq).binding] at hj
      exact hb.bindings hj
  unbound {q} hnone := by
    by_cases hq : q = queue
    · subst hq
      rw [h.bound] at hnone
      cases hnone
    · rw [(h.others hq).binding] at hnone
      rw [(h.others hq).log, (h.others hq).offsets]
      exact hb.unbound hnone

theorem create (hb : b.Numbered saved) {layout : Layout} {r : Registry}
    (hr : b.registry.create queue layout = .ok r) : Numbered saved { b with registry := r } := by
  obtain ⟨-, hnext, hmade⟩ := Registry.create_incarnation hr
  constructor
  · intro q j hj
    rw [hmade] at hj
    rw [hnext]
    by_cases hq : q = queue
    · rw [if_pos hq] at hj
      cases hj
      exact Nat.lt_succ_self _
    · rw [if_neg hq] at hj
      exact Nat.lt_succ_of_lt (hb.topics hj)
  · intro q j hj
    rw [hnext]
    exact Nat.lt_succ_of_lt (hb.bindings hj)
  · exact hb.unbound

theorem delete (hb : b.Numbered saved) {r : Registry} (hr : b.registry.delete queue = .ok r) :
    Numbered saved { b with registry := r } := by
  obtain ⟨-, hnext, hgone⟩ := Registry.delete_incarnation hr
  constructor
  · intro q j hj
    rw [hgone] at hj
    rw [hnext]
    split at hj
    · cases hj
    · exact hb.topics hj
  · intro q j hj
    rw [hnext]
    exact hb.bindings hj
  · exact hb.unbound

end Numbered

end Backend

end ManagedQueue
