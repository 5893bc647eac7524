import ManagedQueue.Proofs.IdleHosts

namespace ManagedQueue

/-- The log may be bound to the topic that is there, or to one that is gone. -/
structure Share where
  layout : Option Layout
  bound : Option Bool
  entry : Option QueueEntry
  log : Option (List Payload)
  offsets : Option (NameMap Nat)
  counters : Option (NameMap Counters)

namespace Backend

variable {b c d : Backend} {queue : String}

def share (b : Backend) (queue : String) : Share where
  layout := b.registry.layouts.get? queue
  bound := (b.transport.bindings.get? queue).map fun i => decide (b.registry.incarnation? queue = some i)
  entry := b.metadata.queues.get? queue
  log := b.transport.logs.get? queue
  offsets := b.transport.offsets.get? queue
  counters := b.metrics.queues.get? queue

theorem snapshot_of_shares (h : ∀ queue, c.share queue = b.share queue) : c.snapshot = b.snapshot := by
  have htopics : c.registry.layouts = b.registry.layouts :=
    Table.ext_get? fun queue => congrArg Share.layout (h queue)
  have hmetadata : c.metadata = b.metadata :=
    congrArg Metadata.mk (Table.ext_get? fun queue => congrArg Share.entry (h queue))
  have hmetrics : c.metrics = b.metrics :=
    congrArg Metrics.mk (Table.ext_get? fun queue => congrArg Share.counters (h queue))
  have hlogs : c.transport.logs = b.transport.logs :=
    Table.ext_get? fun queue => congrArg Share.log (h queue)
  have hoffsets : c.transport.offsets = b.transport.offsets :=
    Table.ext_get? fun queue => congrArg Share.offsets (h queue)
  have hcontains : c.registry.topics.contains = b.registry.topics.contains := by
    funext queue
    rw [← Registry.contains_layouts, ← Registry.contains_layouts, htopics]
  unfold snapshot
  rw [htopics, hmetadata, hmetrics, hlogs, hoffsets, hcontains]

theorem share_eq (htopic : c.registry.topics.get? queue = b.registry.topics.get? queue)
    (htransport : Transport.Agrees queue b.transport c.transport)
    (hentry : c.metadata.queues.get? queue = b.metadata.queues.get? queue)
    (hcounters : c.metrics.queues.get? queue = b.metrics.queues.get? queue) :
    c.share queue = b.share queue := by
  unfold share Registry.layouts Registry.incarnation?
  rw [Table.get?_mapValues, Table.get?_mapValues, htopic, htransport.binding, htransport.log,
    htransport.offsets, hentry, hcounters]

theorem contains_of_share (h : c.share queue = b.share queue) :
    c.registry.topics.contains queue = b.registry.topics.contains queue := by
  have hlayout := congrArg Share.layout h
  rw [← Registry.contains_layouts, ← Registry.contains_layouts, Table.contains, Table.contains]
  exact congrArg Option.isSome hlayout

/-- Incarnations are numbered as they come. -/
def Counted (b : Backend) : Prop := ∃ saved, b.Numbered saved

/-- The backends hold the same of the queue. Where `found` is asked for, a check that need not be of now
finds the queue in both or in neither. -/
structure Same (found : Bool) (queue : String) (b c : Backend) : Prop where
  counted : b.Counted
  counted_other : c.Counted
  clock : c.clock = b.clock
  share : c.share queue = b.share queue
  knows : found → c.registry.knows queue = b.registry.knows queue

/-- Another queue's share is left alone. If its name was not cached without a topic, it is not now. -/
structure Beside (other : String) (b c : Backend) : Prop where
  same : Same false other b c
  settled : b.registry.Known (· ≠ other) → c.registry.Known (· ≠ other)

variable {found : Bool}

namespace Same

theorem refl (h : b.Counted) : Same found queue b b := ⟨h, h, rfl, rfl, fun _ => rfl⟩

theorem trans (h : Same found queue b c) (k : Same found queue c d) : Same found queue b d :=
  ⟨h.counted, k.counted_other, k.clock.trans h.clock, k.share.trans h.share,
    fun hf => (k.knows hf).trans (h.knows hf)⟩

theorem weaken (h : Same true queue b c) : Same found queue b c :=
  ⟨h.counted, h.counted_other, h.clock, h.share, fun _ => h.knows rfl⟩

theorem contains (h : Same found queue b c) :
    c.registry.topics.contains queue = b.registry.topics.contains queue := contains_of_share h.share

end Same

end Backend

theorem Registry.Known.knows {r : Registry} {queue : String} (h : r.Known (· ≠ queue)) :
    r.knows queue = r.topics.contains queue := by
  unfold Registry.knows
  cases hlive : r.topics.contains queue with
  | true => simp
  | false =>
      have hcached : r.cached.contains queue = false := by
        rw [Bool.eq_false_iff]
        intro hcached
        obtain htopic | hne := h queue (List.contains_iff_mem.mp hcached)
        · rw [hlive] at htopic
          cases htopic
        · exact hne rfl
      rw [hcached]
      rfl

namespace Backend

variable {b c d : Backend} {queue other : String} {found : Bool}

namespace Beside

theorem refl (h : b.Counted) : Beside other b b := ⟨.refl h, id⟩

theorem trans (h : Beside other b c) (k : Beside other c d) : Beside other b d :=
  ⟨h.same.trans k.same, k.settled ∘ h.settled⟩

theorem view (h : Beside other b c) (hb : b.registry.Known (· ≠ other)) : Same true other b c :=
  ⟨h.same.counted, h.same.counted_other, h.same.clock, h.same.share, fun _ => by
    rw [(h.settled hb).knows, hb.knows, h.same.contains]⟩

end Beside

def checked (b : Backend) (queue : String) (force : Bool) : Backend :=
  { b with registry := (b.registry.exist queue force).2 }

theorem checked_cases (b : Backend) (queue : String) (force : Bool) :
    b.checked queue force = b ∨ b.checked queue force = { b with registry := b.registry.refresh } := by
  unfold checked Registry.exist
  split
  · exact .inl rfl
  · exact .inr rfl

theorem refresh_counted (h : b.Counted) : Counted { b with registry := b.registry.refresh } := by
  obtain ⟨saved, hb⟩ := h
  exact ⟨saved, hb.agrees rfl rfl fun _ => ⟨rfl, rfl, rfl⟩⟩

theorem checked_counted (h : b.Counted) (queue : String) (force : Bool) : (b.checked queue force).Counted := by
  obtain heq | heq := b.checked_cases queue force
  · rw [heq]
    exact h
  · rw [heq]
    exact refresh_counted h

theorem checked_share (b : Backend) (queue other : String) (force : Bool) :
    (b.checked queue force).share other = b.share other := by
  obtain heq | heq := b.checked_cases queue force
  · rw [heq]
  · rw [heq]
    rfl

theorem checked_beside (h : b.Counted) (queue : String) (force : Bool) :
    Beside other b (b.checked queue force) where
  same := ⟨h, checked_counted h queue force, rfl, checked_share b queue other force, nofun⟩
  settled hb := hb.exist queue force

theorem checked_knows (b : Backend) (queue : String) (force : Bool) :
    (b.checked queue force).registry.knows queue =
      if force then b.registry.topics.contains queue else b.registry.knows queue := by
  have hrefreshed : b.registry.refresh.knows queue = b.registry.topics.contains queue :=
    Registry.Known.knows (.refresh _ _)
  cases force with
  | true =>
      unfold checked
      rw [Registry.exist_forced]
      exact hrefreshed
  | false =>
      unfold checked Registry.exist Registry.knows
      cases hcached : b.registry.cached.contains queue with
      | true => simp [List.contains_iff_mem.mp hcached]
      | false =>
          simp only [Bool.not_false, Bool.and_false, Bool.false_eq_true, if_false, Bool.false_or]
          exact hrefreshed

theorem Same.checked (h : Same true queue b c) (force : Bool) :
    (c.registry.exist queue force).1 = (b.registry.exist queue force).1 ∧
      Same true queue (b.checked queue force) (c.checked queue force) := by
  constructor
  · cases force with
    | true => rw [Registry.exist_forced, Registry.exist_forced, h.contains]
    | false => rw [Registry.exist_lenient, Registry.exist_lenient, h.knows rfl]
  · refine ⟨checked_counted h.counted _ _, checked_counted h.counted_other _ _, h.clock, ?_, fun _ => ?_⟩
    · rw [checked_share, checked_share, h.share]
    · rw [checked_knows, checked_knows, h.contains, h.knows rfl]

theorem share_create (hb : b.Counted) {layout : Layout} {r : Registry}
    (hr : b.registry.create queue layout = .ok r) : share { b with registry := r } queue =
      { b.share queue with layout := some layout, bound := (b.share queue).bound.map fun _ => false } := by
  obtain ⟨saved, hb⟩ := hb
  obtain ⟨-, -, hmade⟩ := Registry.create_incarnation hr
  have hlayout : r.layouts.get? queue = some layout := by
    unfold Registry.create at hr
    split at hr <;> cases hr
    rw [Registry.layouts, Table.get?_mapValues, Table.get?_insert_self]
    rfl
  unfold share
  rw [hlayout, hmade, if_pos rfl, Option.map_map]
  congr 1
  -- Whatever the log is bound to has a smaller number than the new topic.
  cases hbound : b.transport.bindings.get? queue with
  | none => rfl
  | some i =>
      have hlt := hb.bindings hbound
      simp [Nat.ne_of_gt hlt]

theorem share_delete {r : Registry} (hr : b.registry.delete queue = .ok r) :
    share { b with registry := r } queue =
      { b.share queue with layout := none, bound := (b.share queue).bound.map fun _ => false } := by
  obtain ⟨-, -, hgone⟩ := Registry.delete_incarnation hr
  have hlayout : r.layouts.get? queue = none := by
    unfold Registry.delete at hr
    split at hr <;> cases hr
    rw [Registry.layouts, Table.get?_mapValues, Table.get?_erase_self]
    rfl
  unfold share
  rw [hlayout, hgone, if_pos rfl, Option.map_map]
  rfl

theorem registry_beside {r : Registry} (hb : b.Counted) (hr : Counted { b with registry := r })
    (htopic : r.topics.get? other = b.registry.topics.get? other)
    (hknown : b.registry.Known (· ≠ other) → r.Known (· ≠ other)) :
    Beside other b { b with registry := r } :=
  ⟨⟨hb, hr, rfl, share_eq htopic ⟨rfl, rfl, rfl⟩ rfl rfl, nofun⟩, hknown⟩

theorem create_beside (hb : b.Counted) {layout : Layout} {r : Registry}
    (hr : b.registry.create queue layout = .ok r) (hother : other ≠ queue) :
    Beside other b { b with registry := r } := by
  obtain ⟨saved, hnumbered⟩ := hb
  refine registry_beside ⟨saved, hnumbered⟩ ⟨saved, hnumbered.create hr⟩ ?_ fun hknown => hknown.create hr
  unfold Registry.create at hr
  split at hr <;> cases hr
  rw [Table.get?_insert, if_neg hother]

theorem delete_beside (hb : b.Counted) {r : Registry} (hr : b.registry.delete queue = .ok r)
    (hother : other ≠ queue) : Beside other b { b with registry := r } := by
  obtain ⟨saved, hnumbered⟩ := hb
  have hmono {name : String} (hname : name ≠ other ∨ name = queue) : name ≠ other :=
    hname.elim id fun hqueue => hqueue ▸ hother.symm
  refine registry_beside ⟨saved, hnumbered⟩ ⟨saved, hnumbered.delete hr⟩ ?_ fun hknown =>
    (hknown.delete hr).mono fun _ => hmono
  unfold Registry.delete at hr
  split at hr <;> cases hr
  rw [Table.get?_erase, if_neg hother]

theorem Same.create (h : Same true queue b c) (layout : Layout) :
    (∃ e, b.registry.create queue layout = .error e ∧ c.registry.create queue layout = .error e) ∨
    ∃ r q, b.registry.create queue layout = .ok r ∧ c.registry.create queue layout = .ok q ∧
      Same true queue { b with registry := r } { c with registry := q } := by
  cases hlive : b.registry.topics.contains queue with
  | true => exact .inl ⟨_, if_pos hlive, if_pos (h.contains.trans hlive)⟩
  | false =>
      have hother : c.registry.topics.contains queue = false := h.contains.trans hlive
      obtain ⟨r, hr⟩ : ∃ r, b.registry.create queue layout = .ok r := ⟨_, if_neg (by simp [hlive])⟩
      obtain ⟨q, hq⟩ : ∃ q, c.registry.create queue layout = .ok q := ⟨_, if_neg (by simp [hother])⟩
      obtain ⟨saved, hb⟩ := h.counted
      obtain ⟨saved', hc⟩ := h.counted_other
      have hknows {r' r : Registry} (hr : r'.create queue layout = .ok r) : r.knows queue = true := by
        unfold Registry.create at hr
        split at hr <;> cases hr
        simp [Registry.knows, Table.contains_insert]
      refine .inr ⟨r, q, hr, hq, ⟨saved, hb.create hr⟩, ⟨saved', hc.create hq⟩, h.clock, ?_, fun _ => ?_⟩
      · rw [share_create h.counted hr, share_create h.counted_other hq, h.share]
      · exact (hknows hq).trans (hknows hr).symm

theorem Same.delete (h : Same true queue b c) :
    (∃ e, b.registry.delete queue = .error e ∧ c.registry.delete queue = .error e) ∨
    ∃ r q, b.registry.delete queue = .ok r ∧ c.registry.delete queue = .ok q ∧
      Same false queue { b with registry := r } { c with registry := q } := by
  cases hlive : b.registry.topics.contains queue with
  | false =>
      have hother : c.registry.topics.contains queue = false := h.contains.trans hlive
      exact .inl ⟨_, if_neg (by simp [hlive]), if_neg (by simp [hother])⟩
  | true =>
      obtain ⟨r, hr⟩ : ∃ r, b.registry.delete queue = .ok r := ⟨_, if_pos hlive⟩
      obtain ⟨q, hq⟩ : ∃ q, c.registry.delete queue = .ok q := ⟨_, if_pos (h.contains.trans hlive)⟩
      obtain ⟨saved, hb⟩ := h.counted
      obtain ⟨saved', hc⟩ := h.counted_other
      refine .inr ⟨r, q, hr, hq, ⟨saved, hb.delete hr⟩, ⟨saved', hc.delete hq⟩, h.clock, ?_,
        fun hfound => absurd hfound Bool.false_ne_true⟩
      rw [share_delete hr, share_delete hq, h.share]

end Backend

namespace Metadata

def withEntry (m : Metadata) (queue : String) : Option QueueEntry → Metadata
  | some entry => ⟨m.queues.insert queue entry⟩
  | none => ⟨m.queues.erase queue⟩

theorem get?_withEntry (m : Metadata) (queue : String) (entry : Option QueueEntry) (other : String) :
    (m.withEntry queue entry).queues.get? other = if other = queue then entry else m.queues.get? other := by
  cases entry with
  | some entry => exact Table.get?_insert _ _ _ _
  | none => exact Table.get?_erase _ _ _

def ChangesEntry (queue : String) (change : Backend → Except CollaboratorError Metadata) : Prop :=
  ∃ f : Option QueueEntry → Int64 → Except CollaboratorError (Option QueueEntry), ∀ b,
    change b = (f (b.metadata.queues.get? queue) b.clock).map (b.metadata.withEntry queue)

theorem addQueue_changesEntry (queue : String) :
    ChangesEntry queue fun b => b.metadata.addQueue queue b.clock := by
  refine ⟨fun entry now => match entry with
    | some _ => .error ⟨.conflict, s!"queue '{queue}'"⟩
    | none => .ok (some { ctime := now }), fun b => ?_⟩
  dsimp only
  unfold addQueue exist Table.contains
  cases b.metadata.queues.get? queue <;> rfl

theorem deleteQueue_changesEntry (queue : String) :
    ChangesEntry queue fun b => b.metadata.deleteQueue queue := by
  refine ⟨fun entry _ => match entry with
    | some _ => .ok none
    | none => .error (.missingQueue queue), fun b => ?_⟩
  dsimp only
  unfold deleteQueue exist Table.contains
  cases b.metadata.queues.get? queue <;> rfl

theorem ChangesEntry.of_recorded {queue : String} {change : Backend → Except CollaboratorError Metadata}
    (f : QueueEntry → Except CollaboratorError QueueEntry)
    (hchange : ∀ b, change b = match b.metadata.queues.get? queue with
      | none => .error (.missingQueue queue)
      | some entry => (f entry).map fun e => ⟨b.metadata.queues.insert queue e⟩) : ChangesEntry queue change := by
  refine ⟨fun entry _ => entry.elim (.error (.missingQueue queue)) fun e => (f e).map some, fun b => ?_⟩
  rw [hchange]
  cases b.metadata.queues.get? queue with
  | none => rfl
  | some entry =>
      dsimp only [Option.elim]
      cases f entry <;> rfl

theorem addGroup_changesEntry (r : GroupRecord) :
    ChangesEntry r.queue fun b => b.metadata.addGroup r := by
  refine .of_recorded (fun entry =>
    if entry.groups.contains r.group then .error ⟨.conflict, s!"group '{r.group}' on queue '{r.queue}'"⟩
    else .ok { entry with groups := entry.groups.insert r.group r }) fun b => ?_
  unfold addGroup
  cases b.metadata.queues.get? r.queue with
  | none => rfl
  | some entry =>
      dsimp only
      split <;> rfl

theorem updateGroup_changesEntry (r : GroupRecord) :
    ChangesEntry r.queue fun b => b.metadata.updateGroup r := by
  refine .of_recorded (fun entry =>
    if entry.groups.contains r.group then .ok { entry with groups := entry.groups.insert r.group r }
    else .error (.missingGroup r.group r.queue)) fun b => ?_
  unfold updateGroup
  cases b.metadata.queues.get? r.queue with
  | none => rfl
  | some entry =>
      dsimp only
      split <;> rfl

theorem deleteGroup_changesEntry (group queue : String) :
    ChangesEntry queue fun b => b.metadata.deleteGroup group queue := by
  refine .of_recorded (fun entry =>
    if entry.groups.contains group then .ok { entry with groups := entry.groups.erase group }
    else .error (.missingGroup group queue)) fun b => ?_
  unfold deleteGroup
  cases b.metadata.queues.get? queue with
  | none => rfl
  | some entry =>
      dsimp only
      split <;> rfl

end Metadata

namespace Backend

variable {b c d : Backend} {queue other : String} {found : Bool}

theorem share_withEntry (b : Backend) (queue : String) (entry : Option QueueEntry) :
    share { b with metadata := b.metadata.withEntry queue entry } queue =
      { b.share queue with entry := entry } := by
  unfold share
  rw [Metadata.get?_withEntry, if_pos rfl]

theorem withEntry_counted (hb : b.Counted) (m : Metadata) : Counted { b with metadata := m } := by
  obtain ⟨saved, hnumbered⟩ := hb
  exact ⟨saved, hnumbered.agrees rfl rfl fun _ => ⟨rfl, rfl, rfl⟩⟩

theorem withEntry_beside (hb : b.Counted) (hother : other ≠ queue) (entry : Option QueueEntry) :
    Beside other b { b with metadata := b.metadata.withEntry queue entry } := by
  refine ⟨⟨hb, withEntry_counted hb _, rfl, share_eq rfl ⟨rfl, rfl, rfl⟩ ?_ rfl, nofun⟩, id⟩
  exact (Metadata.get?_withEntry _ _ _ _).trans (if_neg hother)

theorem Same.withEntry (h : Same found queue b c) (entry : Option QueueEntry) :
    Same found queue { b with metadata := b.metadata.withEntry queue entry }
      { c with metadata := c.metadata.withEntry queue entry } := by
  refine ⟨withEntry_counted h.counted _, withEntry_counted h.counted_other _, h.clock, ?_, h.knows⟩
  rw [share_withEntry, share_withEntry, h.share]

theorem Same.entry (h : Same found queue b c) :
    c.metadata.queues.get? queue = b.metadata.queues.get? queue := congrArg Share.entry h.share

theorem touched_counted (hb : b.Counted) {i : Nat} (hi : b.registry.incarnation? queue = some i)
    {u : Transport} (hu : Transport.Touches queue i b.transport u) : Counted { b with transport := u } := by
  obtain ⟨saved, hnumbered⟩ := hb
  exact ⟨saved, hnumbered.touches hi hu⟩

theorem touched_beside (hb : b.Counted) {i : Nat} (hi : b.registry.incarnation? queue = some i)
    {u : Transport} (hu : Transport.Touches queue i b.transport u) (hother : other ≠ queue) :
    Beside other b { b with transport := u } :=
  ⟨⟨hb, touched_counted hb hi hu, rfl, share_eq rfl (hu.others hother) rfl rfl, nofun⟩, id⟩

end Backend

namespace Share

def attached (a : Share) : Share :=
  { a with
    bound := some true
    log := if a.bound = some false then none else a.log
    offsets := if a.bound = some false then none else a.offsets }

def appended (payload : Payload) (a : Share) : Share :=
  { a with log := some (a.log.getD [] ++ [payload]) }

def offset (group : String) (a : Share) : Nat := (a.offsets.getD ∅).getD group 0

def next (group : String) (a : Share) : Option Payload := (a.log.getD [])[a.offset group]?

def withOffset (group : String) (n : Nat) (a : Share) : Share :=
  { a with offsets := some ((a.offsets.getD ∅).insert group n) }

def taken (group : String) (a : Share) : Share :=
  match a.next group with
  | some _ => a.withOffset group (a.offset group + 1)
  | none => a.withOffset group (a.offset group)

end Share

namespace Backend

variable {b c d : Backend} {queue other : String} {found : Bool}

theorem share_bind {i : Nat} (hi : b.registry.incarnation? queue = some i) :
    share { b with transport := b.transport.bind queue i } queue = (b.share queue).attached := by
  have hstale : (b.share queue).bound = some false ↔ b.transport.isStale queue i = true := by
    unfold share Transport.isStale
    rw [hi]
    cases b.transport.bindings.get? queue with
    | none => simp
    | some j =>
        by_cases hj : j = i
        · simp [hj]
        · simp [hj, Ne.symm hj]
  unfold Share.attached
  simp only [hstale]
  unfold share
  rw [hi]
  cases hs : b.transport.isStale queue i <;> simp [Transport.bind, hs]

theorem share_append (b : Backend) (queue : String) (payload : Payload) :
    share { b with transport := b.transport.append queue payload } queue =
      (b.share queue).appended payload := by
  unfold share Transport.append Transport.wake
  dsimp only
  rw [Table.get?_insert_self]
  rfl

theorem share_setOffset (b : Backend) (queue group : String) (n : Nat) :
    share { b with transport := b.transport.setOffset queue group n } queue =
      (b.share queue).withOffset group n := by
  unfold share Transport.setOffset
  dsimp only
  rw [Table.get?_insert_self]
  rfl

theorem take_of_share (b : Backend) (queue group : String) :
    (b.transport.take queue group).1 = (b.share queue).next group ∧
      share { b with transport := (b.transport.take queue group).2 } queue =
        (b.share queue).taken group := by
  have hnext : (b.share queue).next group = (b.transport.log queue)[b.transport.offset queue group]? := rfl
  unfold Share.taken
  rw [hnext]
  cases hp : (b.transport.log queue)[b.transport.offset queue group]? with
  | none =>
      rw [Transport.take_none hp]
      exact ⟨rfl, share_setOffset b queue group _⟩
  | some payload =>
      rw [Transport.take_some hp]
      exact ⟨rfl, share_setOffset b queue group _⟩

namespace Same

variable {i j : Nat} {u v : Transport}

theorem topic (h : Same found queue b c) :
    (b.registry.incarnation? queue = none ∧ c.registry.incarnation? queue = none) ∨
    ∃ i j, b.registry.incarnation? queue = some i ∧ c.registry.incarnation? queue = some j := by
  have hsome := h.contains
  rw [← Registry.isSome_incarnation, ← Registry.isSome_incarnation] at hsome
  cases hi : b.registry.incarnation? queue with
  | none =>
      rw [hi] at hsome
      exact .inl ⟨rfl, Option.isSome_eq_false_iff.mp hsome |> Option.isNone_iff_eq_none.mp⟩
  | some i =>
      rw [hi] at hsome
      obtain ⟨j, hj⟩ := Option.isSome_iff_exists.mp hsome
      exact .inr ⟨i, j, rfl, hj⟩

theorem touched (h : Same found queue b c) (hi : b.registry.incarnation? queue = some i)
    (hj : c.registry.incarnation? queue = some j) (hu : Transport.Touches queue i b.transport u)
    (hv : Transport.Touches queue j c.transport v)
    (hshare : Backend.share { c with transport := v } queue = Backend.share { b with transport := u } queue) :
    Same found queue { b with transport := u } { c with transport := v } :=
  ⟨touched_counted h.counted hi hu, touched_counted h.counted_other hj hv, h.clock, hshare, h.knows⟩

theorem attached (h : Same found queue b c) (hi : b.registry.incarnation? queue = some i)
    (hj : c.registry.incarnation? queue = some j) :
    Same found queue { b with transport := b.transport.bind queue i }
      { c with transport := c.transport.bind queue j } := by
  refine h.touched hi hj (Transport.bind_touches _ _ _) (Transport.bind_touches _ _ _) ?_
  rw [share_bind hi, share_bind hj, h.share]

theorem appended (h : Same found queue b c) (hi : b.registry.incarnation? queue = some i)
    (hj : c.registry.incarnation? queue = some j) (payload : Payload) :
    Same found queue { b with transport := (b.transport.bind queue i).append queue payload }
      { c with transport := (c.transport.bind queue j).append queue payload } := by
  refine h.touched hi hj ((Transport.bind_touches _ _ _).append _) ((Transport.bind_touches _ _ _).append _) ?_
  have hb := share_append { b with transport := b.transport.bind queue i } queue payload
  have hc := share_append { c with transport := c.transport.bind queue j } queue payload
  rw [(h.attached hi hj).share] at hc
  exact hc.trans hb.symm

theorem taken (h : Same found queue b c) (hi : b.registry.incarnation? queue = some i)
    (hj : c.registry.incarnation? queue = some j) (group : String) :
    ((c.transport.bind queue j).take queue group).1 = ((b.transport.bind queue i).take queue group).1 ∧
    Same found queue { b with transport := ((b.transport.bind queue i).take queue group).2 }
      { c with transport := ((c.transport.bind queue j).take queue group).2 } := by
  obtain ⟨hb, hb'⟩ := take_of_share { b with transport := b.transport.bind queue i } queue group
  obtain ⟨hc, hc'⟩ := take_of_share { c with transport := c.transport.bind queue j } queue group
  rw [(h.attached hi hj).share] at hc hc'
  exact ⟨hc.trans hb.symm, h.touched hi hj ((Transport.bind_touches _ _ _).take _)
    ((Transport.bind_touches _ _ _).take _) (hc'.trans hb'.symm)⟩

end Same

/-- Sessions and wakeups belong to no share. -/
def withSessions (b : Backend) (sessions : List Session) (wakeups : Nat) : Backend :=
  { b with transport := { b.transport with sessions, wakeups } }

theorem withSessions_counted (hb : b.Counted) (sessions : List Session) (wakeups : Nat) :
    (b.withSessions sessions wakeups).Counted := by
  obtain ⟨saved, hnumbered⟩ := hb
  exact ⟨saved, hnumbered.agrees rfl rfl fun _ => ⟨rfl, rfl, rfl⟩⟩

theorem withSessions_beside (hb : b.Counted) (sessions : List Session) (wakeups : Nat) :
    Beside other b (b.withSessions sessions wakeups) :=
  ⟨⟨hb, withSessions_counted hb _ _, rfl, rfl, nofun⟩, id⟩

theorem Same.withSessions (h : Same found queue b c) (x y : List Session) (m n : Nat) :
    Same found queue (b.withSessions x m) (c.withSessions y n) :=
  ⟨withSessions_counted h.counted _ _, withSessions_counted h.counted_other _ _, h.clock, h.share, h.knows⟩

theorem withMetrics_counted (hb : b.Counted) (m : Metrics) : Counted { b with metrics := m } := by
  obtain ⟨saved, hnumbered⟩ := hb
  exact ⟨saved, hnumbered.agrees rfl rfl fun _ => ⟨rfl, rfl, rfl⟩⟩

theorem record_beside (hb : b.Counted) (direction : Direction) (group : String) (e : CountedEvent)
    (hother : other ≠ queue) :
    Beside other b { b with metrics := b.metrics.record direction queue group e } := by
  refine ⟨⟨hb, withMetrics_counted hb _, rfl, share_eq rfl ⟨rfl, rfl, rfl⟩ rfl ?_, nofun⟩, id⟩
  exact (Table.get?_insert _ _ _ _).trans (if_neg hother)

theorem Same.counters (h : Same found queue b c) :
    c.metrics.queues.get? queue = b.metrics.queues.get? queue := congrArg Share.counters h.share

theorem Same.recorded (h : Same found queue b c) (direction : Direction) (group : String) (e : CountedEvent) :
    Same found queue { b with metrics := b.metrics.record direction queue group e }
      { c with metrics := c.metrics.record direction queue group e } := by
  have hshare (b : Backend) :
      Backend.share { b with metrics := b.metrics.record direction queue group e } queue =
        { b.share queue with counters := (b.metrics.record direction queue group e).queues.get? queue } := rfl
  have hsame : (c.metrics.record direction queue group e).queues.get? queue =
      (b.metrics.record direction queue group e).queues.get? queue := by
    unfold Metrics.record Metrics.counters Table.getD
    dsimp only
    rw [Table.get?_insert_self, Table.get?_insert_self, h.counters]
  refine ⟨withMetrics_counted h.counted _, withMetrics_counted h.counted_other _, h.clock, ?_, h.knows⟩
  rw [hshare, hshare, hsame, h.share]

theorem Same.query (h : Same found queue b c) (direction : Direction) (group : String) (w : Window) :
    c.metrics.query direction queue group w = b.metrics.query direction queue group w := by
  unfold Metrics.query Metrics.events Table.getD
  rw [h.counters]

end Backend

end ManagedQueue
