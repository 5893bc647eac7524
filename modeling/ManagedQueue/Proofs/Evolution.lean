import ManagedQueue.Proofs.MessageFeed

namespace ManagedQueue

namespace Transport

def Closed (t : Transport) (session : Nat) : Prop :=
  ∃ c : Session, t.sessions[session]? = some c ∧ c.closed = true

/-- No group is ahead of its log. -/
def Measured (t : Transport) : Prop := ∀ queue group, t.offset queue group ≤ (t.log queue).length

namespace Measured

variable {t u : Transport}

theorem of_agrees (ht : t.Measured) {queue : String} (h : Agrees queue t u) (group : String) :
    u.offset queue group ≤ (u.log queue).length := by
  have hmeasured := ht queue group
  unfold log offset groupOffsets Table.getD at hmeasured ⊢
  rwa [h.log, h.offsets]

theorem bind (ht : t.Measured) (queue : String) (incarnation : Nat) :
    (t.bind queue incarnation).Measured := by
  intro q group
  by_cases hq : q = queue
  · subst hq
    cases hs : t.isStale q incarnation with
    | true => simp [Transport.bind, hs, log, offset, groupOffsets, Table.getD]
    | false =>
        have hmeasured := ht q group
        simpa [Transport.bind, hs, log, offset, groupOffsets] using hmeasured
  · exact ht.of_agrees (bind_agrees hq t incarnation) group

theorem append (ht : t.Measured) (queue : String) (payload : Payload) :
    (t.append queue payload).Measured := by
  intro q group
  by_cases hq : q = queue
  · subst hq
    have hlog : (t.append q payload).log q = t.log q ++ [payload] := by
      simp [Transport.append, wake, log, Table.getD]
    have hmeasured : (t.append q payload).offset q group ≤ (t.log q).length := ht q group
    rw [hlog, List.length_append]
    exact Nat.le_add_right_of_le hmeasured
  · exact ht.of_agrees (append_agrees hq t payload) group

theorem setOffset (ht : t.Measured) {queue : String} {n : Nat} (hn : n ≤ (t.log queue).length)
    (group : String) : (t.setOffset queue group n).Measured := by
  intro q g
  by_cases hq : q = queue
  · subst hq
    have hoffset : (t.setOffset q group n).offset q g = if g = group then n else t.offset q g := by
      by_cases hg : g = group <;>
        simp [Transport.setOffset, offset, groupOffsets, Table.getD, Table.get?_insert, hg]
    change (t.setOffset q group n).offset q g ≤ (t.log q).length
    rw [hoffset]
    split
    · exact hn
    · exact ht q g
  · exact ht.of_agrees (setOffset_agrees hq t group n) g

theorem take (ht : t.Measured) (queue group : String) : (t.take queue group).2.Measured := by
  cases hp : (t.log queue)[t.offset queue group]? with
  | none =>
      rw [take_none hp]
      exact ht.setOffset (ht queue group) group
  | some payload =>
      obtain ⟨hlt, -⟩ := List.getElem?_eq_some_iff.mp hp
      rw [take_some hp]
      exact ht.setOffset hlt group

end Measured

end Transport

namespace Backend

/-- The elementary changes, with what groups notice of them. No session is closed but those that
`closes` holds of. -/
inductive Change (closes : Nat → Prop) (b : Backend) : List Happening → Backend → Prop
  | aside (c) (htopics : c.registry.topics = b.registry.topics)
      (hnext : c.registry.nextIncarnation = b.registry.nextIncarnation)
      (htransport : c.transport = b.transport) : Change closes b [] c
  | bound (queue i) (hi : b.registry.incarnation? queue = some i) :
      Change closes b [] { b with transport := b.transport.bind queue i }
  | sent (queue i payload) (hi : b.registry.incarnation? queue = some i) :
      Change closes b [.sent queue payload]
        { b with transport := (b.transport.bind queue i).append queue payload }
  | taken (queue i group) (hi : b.registry.incarnation? queue = some i) :
      Change closes b (((b.transport.bind queue i).take queue group).1.toList.map (.received queue group))
        { b with transport := ((b.transport.bind queue i).take queue group).2 }
  | opened (queue group) :
      Change closes b [] { b with transport := (b.transport.openSession queue group).2 }
  | closed (n) (hn : closes n) : Change closes b [] { b with transport := b.transport.closeSession n }
  | created (queue layout r) (hr : b.registry.create queue layout = .ok r) :
      Change closes b [.created queue] { b with registry := r }
  | deleted (queue r) (hr : b.registry.delete queue = .ok r) :
      Change closes b [.deleted queue] { b with registry := r }

inductive Evolves (closes : Nat → Prop) (b : Backend) : List Happening → Backend → Prop
  | refl : Evolves closes b [] b
  | tail {D E c d} (h : Evolves closes b D c) (hc : Change closes c E d) : Evolves closes b (D ++ E) d

variable {closes : Nat → Prop} {saved : Snapshot} {b c d : Backend} {D E : List Happening}
variable {queue group : String} {i : Nat}

theorem feed_of_agrees (hi : c.registry.incarnation? queue = b.registry.incarnation? queue)
    (h : Transport.Agrees queue b.transport c.transport) (group : String) :
    c.feed queue group = b.feed queue group := by
  have hfeed : c.transport.feed queue group = b.transport.feed queue group := by
    funext i
    exact h.feed group i
  rw [feed, feed, hi, hfeed]

theorem feed_le {log : List Payload} {n : Nat} (hb : b.transport.Measured)
    (h : b.feed queue group = some (log, n)) : n ≤ log.length := by
  obtain ⟨i, -, hi⟩ := Option.map_eq_some_iff.mp h
  unfold Transport.feed at hi
  split at hi
  · cases hi
    exact Nat.le_refl 0
  · cases hi
    exact hb queue group

theorem feed_bind (hi : b.registry.incarnation? queue = some i) (q group : String) :
    feed { b with transport := b.transport.bind queue i } q group = b.feed q group := by
  by_cases hq : q = queue
  · subst hq
    simp only [feed, hi, Option.map_some, Transport.feed_bind]
  · exact feed_of_agrees (b := b) (c := { b with transport := b.transport.bind queue i }) rfl
      (Transport.bind_agrees hq b.transport i) group

theorem feed_of_bind (hi : b.registry.incarnation? queue = some i) (group : String) :
    b.feed queue group =
      some ((b.transport.bind queue i).log queue, (b.transport.bind queue i).offset queue group) := by
  rw [feed, hi, Option.map_some, ← Transport.feed_bind,
    Transport.feed_of_bound (Transport.isStale_bind b.transport queue i)]

namespace Change

theorem mono {others : Nat → Prop} (h : Change closes b D c) (hothers : ∀ n, closes n → others n) :
    Change others b D c := by
  cases h with
  | aside _ htopics hnext htransport => exact .aside c htopics hnext htransport
  | bound queue i hi => exact .bound queue i hi
  | sent queue i payload hi => exact .sent queue i payload hi
  | taken queue i group hi => exact .taken queue i group hi
  | opened queue group => exact .opened queue group
  | closed n hn => exact .closed n (hothers n hn)
  | created queue layout r hr => exact .created queue layout r hr
  | deleted queue r hr => exact .deleted queue r hr

theorem numbered (h : Change closes b D c) (hb : b.Numbered saved) : c.Numbered saved := by
  cases h with
  | aside _ htopics hnext htransport =>
      exact hb.agrees htopics hnext fun q => by rw [htransport]; exact ⟨rfl, rfl, rfl⟩
  | bound queue i hi => exact hb.touches hi (Transport.bind_touches b.transport queue i)
  | sent queue i payload hi =>
      exact hb.touches hi ((Transport.bind_touches b.transport queue i).append payload)
  | taken queue i group hi =>
      exact hb.touches hi ((Transport.bind_touches b.transport queue i).take group)
  | opened | closed => exact hb.agrees rfl rfl fun _ => ⟨rfl, rfl, rfl⟩
  | created _ _ _ hr => exact hb.create hr
  | deleted _ _ hr => exact hb.delete hr

theorem touches (h : Change closes b D c) : (∀ queue, Transport.Agrees queue b.transport c.transport) ∨
    ∃ name i, b.registry.incarnation? name = some i ∧
      Transport.Touches name i b.transport c.transport := by
  cases h with
  | aside _ _ _ htransport =>
      rw [htransport]
      exact .inl fun _ => ⟨rfl, rfl, rfl⟩
  | opened | closed | created | deleted => exact .inl fun _ => ⟨rfl, rfl, rfl⟩
  | bound name i hi => exact .inr ⟨name, i, hi, Transport.bind_touches b.transport name i⟩
  | sent name i payload hi =>
      exact .inr ⟨name, i, hi, (Transport.bind_touches b.transport name i).append payload⟩
  | taken name i group hi =>
      exact .inr ⟨name, i, hi, (Transport.bind_touches b.transport name i).take group⟩

theorem bindings (h : Change closes b D c) (hq : b.transport.bindings.contains queue) :
    c.transport.bindings.contains queue := by
  unfold Table.contains at hq ⊢
  obtain hagrees | ⟨name, i, -, htouches⟩ := h.touches
  · rwa [(hagrees queue).binding]
  · by_cases hn : queue = name
    · rw [hn, htouches.bound]
      rfl
    · rwa [(htouches.others hn).binding]

theorem binds (h : Change closes b D c) {x : Happening} (hx : x ∈ D)
    (hmessage : (∃ payload, x = .sent queue payload) ∨ ∃ group payload, x = .received queue group payload) :
    c.transport.bindings.contains queue := by
  have htouch {i : Nat} {u : Transport} (ht : Transport.Touches queue i b.transport u) :
      u.bindings.contains queue := by
    rw [Table.contains, ht.bound]
    rfl
  cases h with
  | sent name i payload =>
      obtain ⟨_, rfl⟩ | ⟨_, _, rfl⟩ := hmessage
      · cases List.mem_singleton.mp hx
        exact htouch ((Transport.bind_touches b.transport queue i).append payload)
      · cases List.mem_singleton.mp hx
  | taken name i group =>
      obtain ⟨payload, -, rfl⟩ := List.mem_map.mp hx
      obtain ⟨_, hsent⟩ | ⟨_, _, hreceived⟩ := hmessage
      · cases hsent
      · cases hreceived
        exact htouch ((Transport.bind_touches b.transport queue i).take group)
  | created | deleted =>
      cases List.mem_singleton.mp hx
      simp at hmessage
  | aside | bound | opened | closed => cases hx

theorem inheritance (h : Change closes b D c) (hq : b.inheritance saved queue group = ([], 0)) :
    c.inheritance saved queue group = ([], 0) := by
  unfold Backend.inheritance at hq ⊢
  split
  · rfl
  · next hc => rwa [if_neg fun hb => hc (h.bindings hb)] at hq

theorem measured (h : Change closes b D c) (hb : b.transport.Measured) : c.transport.Measured := by
  cases h with
  | aside _ _ _ htransport => rwa [htransport]
  | bound queue i => exact hb.bind queue i
  | sent queue i payload => exact (hb.bind queue i).append queue payload
  | taken queue i group => exact (hb.bind queue i).take queue group
  | opened | closed | created | deleted => exact hb

/-- All that a group notices of a change is what is told of it, as long as new topics start empty. -/
theorem feed (h : Change closes b D c) (hb : b.Numbered saved) (queue group : String)
    (hnew : .created queue ∈ D → b.inheritance saved queue group = ([], 0)) :
    Feed queue group (b.feed queue group) D (c.feed queue group) := by
  -- A queue other than the one the change is about keeps its feed: its topic and what the transport has
  -- for it stay. For the queue itself the change and the happening say the same.
  cases h with
  | aside _ htopics hnext htransport =>
      have hagrees : Transport.Agrees queue b.transport c.transport := by
        rw [htransport]
        exact ⟨rfl, rfl, rfl⟩
      rw [feed_of_agrees (by simp only [Registry.incarnation?, htopics]) hagrees]
      exact .done _
  | bound _ _ hi =>
      rw [feed_bind hi]
      exact .done _
  | sent name i payload hi =>
      have hstale := Transport.isStale_bind b.transport name i
      by_cases hq : queue = name
      · subst hq
        rw [feed_of_bind hi, Backend.feed, hi, Option.map_some, Transport.feed_append hstale]
        exact .sent (.done _)
      · have hagrees := ((Transport.bind_touches b.transport name i).append payload).others hq
        have hsame := feed_of_agrees (b := b) (c := { b with
          transport := (b.transport.bind name i).append name payload }) rfl hagrees group
        rw [hsame]
        exact .aside (Ne.symm hq) (.done _)
  | taken name i g hi =>
      have hstale := Transport.isStale_bind b.transport name i
      by_cases hq : queue = name
      · subst hq
        rw [feed_of_bind hi, Backend.feed, hi, Option.map_some]
        cases hp : ((b.transport.bind queue i).log queue)[(b.transport.bind queue i).offset queue g]? with
        | none =>
            rw [Transport.take_none hp, Transport.feed_setOffset hstale]
            by_cases hg : group = g
            · rw [if_pos hg, hg]
              exact .done _
            · rw [if_neg hg]
              exact .done _
        | some payload =>
            rw [Transport.take_some hp, Transport.feed_setOffset hstale]
            by_cases hg : group = g
            · rw [if_pos hg, hg]
              exact .received hp (.done _)
            · rw [if_neg hg]
              exact .aside (fun hx => hg hx.2.symm) (.done _)
      · have hagrees := ((Transport.bind_touches b.transport name i).take g).others hq
        have hsame := feed_of_agrees (b := b) (c := { b with
          transport := ((b.transport.bind name i).take name g).2 }) rfl hagrees group
        rw [hsame]
        refine .of_aside fun x hx => ?_
        obtain ⟨payload, -, rfl⟩ := List.mem_map.mp hx
        exact fun hx => hq hx.1.symm
  | opened | closed => exact .done _
  | created name layout r hr =>
      obtain ⟨hnone, -, hmade⟩ := Registry.create_incarnation hr
      rw [Backend.feed, Backend.feed, hmade]
      by_cases hq : queue = name
      · subst hq
        rw [hnone, if_pos rfl, Option.map_some, hb.feed_next, hnew (.head _)]
        exact .created (.done _)
      · rw [if_neg hq]
        exact .aside (Ne.symm hq) (.done _)
  | deleted name r hr =>
      obtain ⟨⟨i, hi⟩, -, hgone⟩ := Registry.delete_incarnation hr
      rw [Backend.feed, Backend.feed, hgone]
      by_cases hq : queue = name
      · subst hq
        rw [hi, if_pos rfl]
        exact .deleted (.done _)
      · rw [if_neg hq]
        exact .aside (Ne.symm hq) (.done _)

theorem absent (h : Change closes b D c) (hD : .created queue ∉ D)
    (hnone : b.registry.incarnation? queue = none) :
    c.registry.incarnation? queue = none ∧
      c.transport.bindings.get? queue = b.transport.bindings.get? queue := by
  constructor
  · cases h with
    | aside _ htopics =>
        rw [Registry.incarnation?, htopics]
        exact hnone
    | bound | sent | taken | opened | closed => exact hnone
    | created name layout r hr =>
        have hname : queue ≠ name := fun hq => hD (hq ▸ .head _)
        rw [(Registry.create_incarnation hr).2.2, if_neg hname]
        exact hnone
    | deleted name r hr =>
        rw [(Registry.delete_incarnation hr).2.2]
        split
        · rfl
        · exact hnone
  -- Only a queue with a topic is bound.
  · obtain hagrees | ⟨name, i, hi, htouches⟩ := h.touches
    · exact (hagrees queue).binding
    · have hname : queue ≠ name := by
        rintro rfl
        rw [hnone] at hi
        cases hi
      exact (htouches.others hname).binding

theorem topics (h : Change closes b D c) (hD : ∀ queue, .created queue ∉ D ∧ .deleted queue ∉ D) :
    c.registry.topics = b.registry.topics := by
  cases h with
  | aside _ htopics => exact htopics
  | bound | sent | taken | opened | closed => rfl
  | created name => exact absurd (.head _) (hD name).1
  | deleted name => exact absurd (.head _) (hD name).2

theorem makes (h : Change closes b D c) (hD : .created queue ∈ D) :
    ∃ layout r, b.registry.create queue layout = .ok r ∧ c = { b with registry := r } := by
  cases h with
  | created name layout r hr =>
      cases List.mem_singleton.mp hD
      exact ⟨layout, r, hr, rfl⟩
  | taken => simp at hD
  | sent | deleted => simp at hD
  | aside | bound | opened | closed => cases hD

theorem wakeups_le (h : Change closes b D c) : b.transport.wakeups ≤ c.transport.wakeups := by
  cases h with
  | aside _ _ _ htransport => exact Nat.le_of_eq (by rw [htransport])
  | sent | closed => exact Nat.le_succ _
  | taken queue i group =>
      obtain ⟨n, hn⟩ := Transport.take_setOffset (b.transport.bind queue i) queue group
      rw [hn]
      exact Nat.le_refl _
  | bound | opened | created | deleted => exact Nat.le_refl _

theorem wakeups_eq (h : Change closes b D c) (hsent : ∀ queue payload, .sent queue payload ∉ D)
    (hcloses : ∀ n, ¬ closes n) : c.transport.wakeups = b.transport.wakeups := by
  cases h with
  | aside _ _ _ htransport => rw [htransport]
  | sent queue i payload => exact absurd (.head _) (hsent queue payload)
  | taken queue i group =>
      obtain ⟨n, hn⟩ := Transport.take_setOffset (b.transport.bind queue i) queue group
      rw [hn]
      rfl
  | closed n hn => exact absurd hn (hcloses n)
  | bound | opened | created | deleted => rfl

theorem asleep (h : Change closes b D c) (hw : c.transport.wakeups = b.transport.wakeups) :
    (∀ queue payload, .sent queue payload ∉ D) ∧
      ∀ (n : Nat) (s : Session), b.transport.sessions[n]? = some s → c.transport.sessions[n]? = some s := by
  cases h with
  | aside _ _ _ htransport => exact ⟨by simp, fun n s hs => by rw [htransport, hs]⟩
  | sent | closed => exact absurd hw (Nat.succ_ne_self _)
  | taken queue i group =>
      obtain ⟨m, hm⟩ := Transport.take_setOffset (b.transport.bind queue i) queue group
      exact ⟨by simp, fun n s hs => by rw [hm]; exact hs⟩
  | opened =>
      refine ⟨by simp, fun n s hs => ?_⟩
      obtain ⟨hn, -⟩ := List.getElem?_eq_some_iff.mp hs
      rw [← hs]
      exact List.getElem?_append_left hn
  | bound | created | deleted => exact ⟨by simp, fun _ _ hs => hs⟩

theorem closed_cases (h : Change closes b D c) {session : Nat} (hc : c.transport.Closed session) :
    b.transport.Closed session ∨ closes session := by
  cases h with
  | aside _ _ _ htransport =>
      rw [htransport] at hc
      exact .inl hc
  | bound | sent | created | deleted => exact .inl hc
  | taken queue i group =>
      obtain ⟨n, hn⟩ := Transport.take_setOffset (b.transport.bind queue i) queue group
      rw [hn] at hc
      exact .inl hc
  | opened queue group =>
      obtain ⟨s, hs, hclosed⟩ := hc
      change (b.transport.sessions ++ [_])[session]? = _ at hs
      -- A session that was just opened is not closed yet.
      rw [List.getElem?_append] at hs
      split at hs
      · exact .inl ⟨s, hs, hclosed⟩
      · obtain rfl := List.mem_singleton.mp (List.mem_of_getElem? hs)
        cases hclosed
  | closed n hn =>
      by_cases hsession : n = session
      · exact .inr (hsession ▸ hn)
      · obtain ⟨s, hs, hclosed⟩ := hc
        have hother : (b.transport.closeSession n).sessions[session]? = b.transport.sessions[session]? := by
          simp [Transport.closeSession, Transport.wake, hsession]
        exact .inl ⟨s, hother ▸ hs, hclosed⟩

end Change

namespace Evolves

theorem single (h : Change closes b D c) : Evolves closes b D c := Evolves.refl.tail h

theorem mono {others : Nat → Prop} (h : Evolves closes b D c) (hothers : ∀ n, closes n → others n) :
    Evolves others b D c := by
  induction h with
  | refl => exact .refl
  | tail _ hlast ih => exact ih.tail (hlast.mono hothers)

theorem trans (h : Evolves closes b D c) (k : Evolves closes c E d) : Evolves closes b (D ++ E) d := by
  induction k with
  | refl => simpa using h
  | tail _ hlast ih =>
      rw [← List.append_assoc]
      exact ih.tail hlast

theorem followed (h : Evolves closes b D c) (htopics : d.registry.topics = c.registry.topics)
    (hnext : d.registry.nextIncarnation = c.registry.nextIncarnation)
    (htransport : d.transport = c.transport) : Evolves closes b D d := by
  simpa using h.tail (.aside d htopics hnext htransport)

theorem numbered (h : Evolves closes b D c) (hb : b.Numbered saved) : c.Numbered saved := by
  induction h with
  | refl => exact hb
  | tail _ hlast ih => exact hlast.numbered ih

theorem bindings (h : Evolves closes b D c) (hq : b.transport.bindings.contains queue) :
    c.transport.bindings.contains queue := by
  induction h with
  | refl => exact hq
  | tail _ hlast ih => exact hlast.bindings ih

theorem binds (h : Evolves closes b D c) {x : Happening} (hx : x ∈ D)
    (hmessage : (∃ payload, x = .sent queue payload) ∨ ∃ group payload, x = .received queue group payload) :
    c.transport.bindings.contains queue := by
  induction h with
  | refl => cases hx
  | tail _ hlast ih =>
      rcases List.mem_append.mp hx with hx | hx
      · exact hlast.bindings (ih hx)
      · exact hlast.binds hx hmessage

theorem inheritance (h : Evolves closes b D c) (hq : b.inheritance saved queue group = ([], 0)) :
    c.inheritance saved queue group = ([], 0) := by
  induction h with
  | refl => exact hq
  | tail _ hlast ih => exact hlast.inheritance ih

theorem measured (h : Evolves closes b D c) (hb : b.transport.Measured) : c.transport.Measured := by
  induction h with
  | refl => exact hb
  | tail _ hlast ih => exact hlast.measured ih

theorem feed (h : Evolves closes b D c) (hb : b.Numbered saved) (queue group : String)
    (hnew : .created queue ∈ D → b.inheritance saved queue group = ([], 0)) :
    Feed queue group (b.feed queue group) D (c.feed queue group) := by
  induction h with
  | refl => exact .done _
  | tail hfirst hlast ih =>
      exact (ih fun hD => hnew (List.mem_append_left _ hD)).append
        (hlast.feed (hfirst.numbered hb) queue group fun hE =>
          hfirst.inheritance (hnew (List.mem_append_right _ hE)))

theorem absent (h : Evolves closes b D c) (hD : .created queue ∉ D)
    (hnone : b.registry.incarnation? queue = none) :
    c.registry.incarnation? queue = none ∧
      c.transport.bindings.get? queue = b.transport.bindings.get? queue := by
  induction h with
  | refl => exact ⟨hnone, rfl⟩
  | tail hfirst hlast ih =>
      obtain ⟨hnone, hbinding⟩ := ih fun hmem => hD (List.mem_append_left _ hmem)
      obtain ⟨hnone, hlast⟩ := hlast.absent (fun hmem => hD (List.mem_append_right _ hmem)) hnone
      exact ⟨hnone, hlast.trans hbinding⟩

theorem feed_eq (h : Evolves closes b [] c) (hb : b.Numbered saved) (queue group : String) :
    c.feed queue group = b.feed queue group :=
  (h.feed hb queue group fun hD => absurd hD List.not_mem_nil).eq_of_nil

theorem topics (h : Evolves closes b D c) (hD : ∀ queue, .created queue ∉ D ∧ .deleted queue ∉ D) :
    c.registry.topics = b.registry.topics := by
  induction h with
  | refl => rfl
  | tail hfirst hlast ih =>
      have hlast := hlast.topics fun q =>
        ⟨fun h => (hD q).1 (List.mem_append_right _ h), fun h => (hD q).2 (List.mem_append_right _ h)⟩
      exact hlast.trans (ih fun q =>
        ⟨fun h => (hD q).1 (List.mem_append_left _ h), fun h => (hD q).2 (List.mem_append_left _ h)⟩)

theorem unmade (h : Evolves closes b D c) (hb : b.Numbered saved) (hD : D = [.created queue]) :
    b.registry.incarnation? queue = none := by
  induction h with
  | refl => cases hD
  | tail hfirst hlast ih =>
      rcases List.append_eq_singleton_iff.mp hD with ⟨rfl, rfl⟩ | ⟨rfl, rfl⟩
      · obtain ⟨layout, r, hr, -⟩ := hlast.makes (.head _)
        have hfeed := hfirst.feed_eq hb queue ""
        rw [Backend.feed, (Registry.create_incarnation hr).1] at hfeed
        exact Option.map_eq_none_iff.mp hfeed.symm
      · exact ih rfl

theorem created (h : Evolves closes b D c) (hb : b.Numbered saved) (hD : D = [.created queue])
    (group : String) : c.feed queue group = some (b.inheritance saved queue group) := by
  induction h with
  | refl => cases hD
  | @tail D E c d hfirst hlast ih =>
      rcases List.append_eq_singleton_iff.mp hD with ⟨rfl, rfl⟩ | ⟨rfl, rfl⟩
      · have hbinding := (hfirst.absent List.not_mem_nil ((hfirst.tail hlast).unmade hb rfl)).2
        obtain ⟨layout, r, hr, rfl⟩ := hlast.makes (.head _)
        obtain ⟨-, -, hmade⟩ := Registry.create_incarnation hr
        rw [Backend.feed, hmade, if_pos rfl, Option.map_some, (hfirst.numbered hb).feed_next,
          Backend.inheritance, Backend.inheritance, Table.contains, Table.contains, hbinding]
      · rw [(Evolves.single hlast).feed_eq (hfirst.numbered hb)]
        exact ih rfl

theorem wakeups_le (h : Evolves closes b D c) : b.transport.wakeups ≤ c.transport.wakeups := by
  induction h with
  | refl => exact Nat.le_refl _
  | tail _ hlast ih => exact Nat.le_trans ih hlast.wakeups_le

theorem wakeups_eq (h : Evolves closes b D c) (hsent : ∀ queue payload, .sent queue payload ∉ D)
    (hcloses : ∀ n, ¬ closes n) : c.transport.wakeups = b.transport.wakeups := by
  induction h with
  | refl => rfl
  | tail _ hlast ih =>
      have hfirst := ih fun q p hD => hsent q p (List.mem_append_left _ hD)
      have hnext := hlast.wakeups_eq (fun q p hE => hsent q p (List.mem_append_right _ hE)) hcloses
      exact hnext.trans hfirst

theorem asleep (h : Evolves closes b D c) (hw : c.transport.wakeups = b.transport.wakeups) :
    (∀ queue payload, .sent queue payload ∉ D) ∧
      ∀ (n : Nat) (s : Session), b.transport.sessions[n]? = some s → c.transport.sessions[n]? = some s := by
  induction h with
  | refl => exact ⟨by simp, fun _ _ hs => hs⟩
  | @tail D E c d hfirst hlast ih =>
      -- The count of wakeups never falls, so it stands still in both parts.
      have hmiddle : c.transport.wakeups = b.transport.wakeups :=
        Nat.le_antisymm (hw ▸ hlast.wakeups_le) hfirst.wakeups_le
      obtain ⟨hD, hfirst⟩ := ih hmiddle
      obtain ⟨hE, hlast⟩ := hlast.asleep (hw.trans hmiddle.symm)
      refine ⟨fun q p hmem => ?_, fun n s hs => hlast n s (hfirst n s hs)⟩
      rcases List.mem_append.mp hmem with hmem | hmem
      · exact hD q p hmem
      · exact hE q p hmem

theorem closed_cases (h : Evolves closes b D c) {session : Nat} (hc : c.transport.Closed session) :
    b.transport.Closed session ∨ closes session := by
  induction h with
  | refl => exact .inl hc
  | tail _ hlast ih =>
      rcases hlast.closed_cases hc with hc | hcloses
      · exact ih hc
      · exact .inr hcloses

end Evolves

end Backend

end ManagedQueue
