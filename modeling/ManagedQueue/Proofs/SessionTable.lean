import ManagedQueue.Proofs.LockOrder

namespace ManagedQueue

theorem not_at_of_nameFault {name : String} (h : nameFault? name = none) : '@' ∉ name.toList := by
  unfold nameFault? at h
  split at h
  · cases h
  · split at h
    · cases h
    · split at h
      · cases h
      · next hat => simpa using hat

/-- Names without an at sign can be read off the key. -/
theorem sessionKey_inj {queue group queue' group' : String} (hqueue : nameFault? queue = none)
    (hgroup : nameFault? group = none) (h : sessionKey queue group = sessionKey queue' group') :
    queue = queue' ∧ group = group' := by
  have hq := not_at_of_nameFault hqueue
  have hg := not_at_of_nameFault hgroup
  have hl : queue.toList ++ '@' :: group.toList = queue'.toList ++ '@' :: group'.toList := by
    have hlist := congrArg String.toList h
    simpa [sessionKey] using hlist
  -- A valid name has no separator, so neither key can be split further along than the other.
  obtain ⟨rest, hl', hm⟩ | ⟨rest, hl', hm⟩ := List.append_eq_append_iff.mp hl
  · cases rest with
    | nil =>
        rw [List.append_nil] at hl'
        rw [List.nil_append] at hm
        injection hm with _ hm
        exact ⟨String.toList_inj.mp hl'.symm, String.toList_inj.mp hm⟩
    | cons c rest =>
        injection hm with hc hm
        exact absurd (by simp [hm]) hg
  · cases rest with
    | nil =>
        rw [List.append_nil] at hl'
        rw [List.nil_append] at hm
        injection hm with _ hm
        exact ⟨String.toList_inj.mp hl', String.toList_inj.mp hm.symm⟩
    | cons c rest =>
        injection hm with hc hm
        exact absurd (by simp [hl', ← hc]) hq

def Transport.Reads (t : Transport) (session : Nat) (queue group : String) : Prop :=
  ∃ c : Session, t.sessions[session]? = some c ∧ c.queue = queue ∧ c.group = group

theorem Transport.Reads.extends {t u : Transport} {session : Nat} {queue group : String}
    (h : t.Reads session queue group) (hext : t.Extends u) : u.Reads session queue group := by
  obtain ⟨c, hc, hqueue, hgroup⟩ := h
  obtain ⟨d, hd, hqueue', hgroup', -⟩ := hext session c hc
  exact ⟨d, hd, hqueue'.trans hqueue, hgroup'.trans hgroup⟩

theorem Transport.openSession_reads (t : Transport) (queue group : String) :
    (t.openSession queue group).2.Reads t.sessions.length queue group :=
  ⟨⟨queue, group, false⟩, List.getElem?_concat_length, rfl, rfl⟩

namespace Host

structure Sound (h : Host) : Prop where
  service : h.service.Sound
  waiting : ∀ {ticket r n w}, h.service.receives.get? ticket = some r → r.stage = .waiting n w →
    h.site.backend.transport.Reads n r.queue r.group
  cached : ∀ {key n}, h.service.sessions.get? key = some n → ∃ queue group,
    key = sessionKey queue group ∧ nameFault? queue = none ∧ nameFault? group = none ∧
      h.site.backend.transport.Reads n queue group

variable {h h' : Host} {ticket : Nat} {r : Receive}

/-- What the end of a poll leaves of the receive. -/
inductive Settles (ticket : Nat) (r : Receive) (session : Nat) (before : Table Nat Receive) :
    Table Nat Receive → Prop
  | ended : Settles ticket r session before (before.erase ticket)
  | waiting (wakeups) : Settles ticket r session before
      (before.insert ticket { r with stage := .waiting session wakeups })

theorem erase_departs (ticket : Nat) (r : Receive) (before : Table Nat Receive) :
    Service.Sound.Departs ticket r before (before.erase ticket) :=
  ⟨fun hj => by simp [Table.get?_erase, hj], fun hq => by simp at hq⟩

theorem Settles.departs {session : Nat} {before after : Table Nat Receive}
    (hs : Settles ticket r session before after) : Service.Sound.Departs ticket r before after := by
  cases hs with
  | ended => exact erase_departs ticket r before
  | waiting wakeups =>
      refine ⟨fun hj => by simp [Table.get?_insert, hj], fun hq => ?_⟩
      rw [Table.get?_insert_self] at hq
      cases hq
      exact ⟨rfl, rfl, id⟩

theorem LooksNow.settles {session : Nat} {answer : Poll Received}
    (hl : LooksNow ticket r session h answer h') : ∃ receives,
      h'.service = { h.service with receives } ∧
      Settles ticket r session h.service.receives receives := by
  cases hl with
  | failed => exact ⟨_, rfl, .ended⟩
  | quiet => exact ⟨_, rfl, .waiting _⟩
  | received => exact ⟨_, rfl, .ended⟩

theorem Listens.settles {session : Nat} {answer : Poll Received}
    (hl : Listens ticket r session h answer h') : ∃ receives,
      h'.service = { h.service with receives } ∧
      Settles ticket r session h.service.receives receives := by
  cases hl with
  | struck => exact ⟨_, rfl, .ended⟩
  | looked _ _ _ hl => exact hl.settles

/-- What a poll leaves of the service: the receive stays where it is, or it leaves the lock and has
perhaps opened a session. -/
inductive Turns (ticket : Nat) (r : Receive) (h h' : Host) : Prop
  | stays (receives) (hservice : h'.service = { h.service with receives })
  | leaves (receives) (hservice : h'.service = { h.service with
      receives, lock := h.service.lock.leave ticket })
  | opens (receives n) (hmay : h.MayOpen ticket r) (hservice : h'.service = { h.service with
      receives
      sessions := h.service.sessions.insert (sessionKey r.queue r.group) n
      lock := h.service.lock.leave ticket })

theorem Acquires.turns {a : Acquisition} (ha : Acquires ticket r h a h') : Turns ticket r h h' := by
  cases ha with
  | inLine | shut => exact .stays _ rfl
  | found | refused => exact .leaves _ rfl
  | opened i s hmay => exact .opens _ _ hmay rfl

theorem Turns.followed {h'' : Host} (ht : Turns ticket r h h') {receives : Table Nat Receive}
    (hservice : h''.service = { h'.service with receives }) : Turns ticket r h h'' := by
  cases ht with
  | stays _ hfirst => exact .stays receives (by rw [hservice, hfirst])
  | leaves _ hfirst => exact .leaves receives (by rw [hservice, hfirst])
  | opens _ n hmay hfirst => exact .opens receives n hmay (by rw [hservice, hfirst])

theorem Advances.turns {answer : Poll Received} (ha : Advances ticket r h answer h') :
    Turns ticket r h h' := by
  cases ha with
  | idle => exact .stays _ rfl
  | woken _ _ _ _ _ _ hl =>
      obtain ⟨receives, hservice, -⟩ := hl.settles
      exact .stays receives hservice
  | waits _ _ ha => exact ha.turns
  | served _ _ _ _ _ _ ha _ hl =>
      obtain ⟨receives, hservice, -⟩ := hl.settles
      exact ha.turns.followed hservice
  | refused _ _ _ ha => exact ha.turns.followed rfl

namespace Sound

theorem task (hs : h.Sound) {s : Site} (hext : h.site.Extends s) :
    Sound ⟨s, h.service⟩ where
  service := hs.service
  waiting hr hstage := (hs.waiting hr hstage).extends hext
  cached hn := by
    obtain ⟨queue, group, hkey, hqueue, hgroup, hreads⟩ := hs.cached hn
    exact ⟨queue, group, hkey, hqueue, hgroup, hreads.extends hext⟩

/-- Who has found no session, and may open one, owns the lock, and there is still none. -/
theorem mayOpen (hs : h.Sound) (hr : h.service.receives.get? ticket = some r)
    (hmay : h.MayOpen ticket r) : h.service.lock.owner = some ticket ∧
      h.service.sessions.get? (sessionKey r.queue r.group) = none := by
  rcases hmay with hstage | hmay
  · exact hs.service.opening hr hstage
  · exact hmay

theorem acquires_reads (hs : h.Sound) (hr : h.service.receives.get? ticket = some r) {a : Acquisition}
    (ha : Acquires ticket r h a h') {n : Nat} (hn : a = .found n ∨ a = .opened n) :
    h'.site.backend.transport.Reads n r.queue r.group := by
  cases ha with
  | inLine | shut | refused => simp at hn
  | found m _ _ hm =>
      obtain rfl : m = n := by simpa using hn
      obtain ⟨queue, group, hkey, -, -, hreads⟩ := hs.cached hm
      obtain ⟨hqueue, hgroup⟩ := hs.service.named hr
      obtain ⟨rfl, rfl⟩ := sessionKey_inj hqueue hgroup hkey
      exact hreads
  | opened i s _ _ _ ht =>
      obtain rfl : h.site.backend.transport.sessions.length = n := by simpa using hn
      have hopen := Transport.openSession_reads (h.site.backend.transport.bind r.queue i) r.queue r.group
      exact hopen.extends ht.sessions

/-- The receive leaves the lock; if it has opened a session, that is in the table. -/
theorem depart (hs : h.Sound) (hr : h.service.receives.get? ticket = some r) {s : Site}
    (hext : h.site.Extends s) {sessions : NameMap Nat}
    (hsessions : sessions = h.service.sessions ∨ h.service.lock.owner = some ticket)
    (hcached : ∀ {key n}, sessions.get? key = some n → h.service.sessions.get? key = some n ∨
      key = sessionKey r.queue r.group ∧ s.backend.transport.Reads n r.queue r.group)
    {receives : Table Nat Receive} {session : Nat}
    (hreads : s.backend.transport.Reads session r.queue r.group)
    (hd : Settles ticket r session h.service.receives receives) :
    Sound ⟨s, { h.service with sessions, receives, lock := h.service.lock.leave ticket }⟩ where
  service := hs.service.depart hr hsessions hd.departs
  waiting {j q n w} hq hstage := by
    by_cases hj : j = ticket
    · subst hj
      cases hd with
      | ended => simp at hq
      | waiting wakeups =>
          rw [Table.get?_insert_self] at hq
          cases hq
          cases hstage
          exact hreads
    · exact (hs.waiting (hd.departs.others hj ▸ hq) hstage).extends hext
  cached {key n} hn := by
    rcases hcached hn with hn | ⟨hkey, hreads⟩
    · exact (hs.task hext).cached hn
    · obtain ⟨hqueue, hgroup⟩ := hs.service.named hr
      exact ⟨r.queue, r.group, hkey, hqueue, hgroup, hreads⟩

theorem leave (hs : h.Sound) (hr : h.service.receives.get? ticket = some r) {s : Site}
    (hext : h.site.Extends s) :
    Sound ⟨s, { h.service with
      receives := h.service.receives.erase ticket, lock := h.service.lock.leave ticket }⟩ where
  service := hs.service.depart hr (.inl rfl) (erase_departs ticket r _)
  waiting {j q n w} hq hstage := by
    rw [Table.get?_erase] at hq
    split at hq
    · cases hq
    · exact (hs.waiting hq hstage).extends hext
  cached := (hs.task hext).cached

theorem enters {queue group : String} {a : Nat × Except ServiceError Receive} (hs : h.Sound)
    (he : Enters queue group h a h') : h'.Sound := by
  cases he with
  | refused e s ht =>
      have hsite := hs.task ht.sessions
      exact ⟨hs.service.skip, hsite.waiting, hsite.cached⟩
  | entered s hqueue hgroup ht =>
      have hsite := hs.task ht.sessions
      refine ⟨hs.service.enter hqueue hgroup, fun hq hstage => ?_, hsite.cached⟩
      rw [Table.get?_insert] at hq
      split at hq
      · cases hq
        cases hstage
      · exact hsite.waiting hq hstage

theorem not_atLock (hs : h.Sound) (hr : h.service.receives.get? ticket = some r) {session wakeups : Nat}
    (hstage : r.stage = .waiting session wakeups) : ticket ∉ h.service.lock.tickets := by
  intro hm
  obtain ⟨q, hq, hlock⟩ := (hs.service.atLock ticket).mp hm
  rw [hr] at hq
  cases hq
  rw [hstage] at hlock
  exact hlock

theorem wakes (hs : h.Sound) (hr : h.service.receives.get? ticket = some r) {session wakeups : Nat}
    (hstage : r.stage = .waiting session wakeups) {answer : Poll Received}
    (hl : LooksNow ticket r session h answer h') : h'.Sound := by
  obtain ⟨receives, hservice, hd⟩ := hl.settles
  have hext := hl.traffic.sessions
  have hnot := hs.not_atLock hr hstage
  have hdepart := hs.depart hr hext (.inl rfl) .inl ((hs.waiting hr hstage).extends hext) hd
  rw [Lock.leave_of_not_mem hnot] at hdepart
  rw [show h' = ⟨h'.site, h'.service⟩ from rfl, hservice]
  exact hdepart

theorem advances {answer : Poll Received} (hs : h.Sound)
    (hr : h.service.receives.get? ticket = some r) (ha : Advances ticket r h answer h') :
    h'.Sound := by
  cases ha with
  | idle => exact hs
  | woken session wakeups _ _ hstage _ hl => exact hs.wakes hr hstage hl
  | waits _ _ ha =>
      cases ha with
      | inLine => exact hs
      | shut hmay =>
          obtain ⟨ho, hn⟩ := hs.mayOpen hr hmay
          refine ⟨hs.service.suspend hr ho hn, fun hq hstage => ?_, hs.cached⟩
          rw [Table.get?_insert] at hq
          split at hq
          · cases hq
            cases hstage
          · exact hs.waiting hq hstage
  | served a n h₁ _ _ _ ha hn hl =>
      obtain ⟨receives, hservice, hd⟩ := hl.settles
      have hext := hl.traffic.sessions
      have hreads := (hs.acquires_reads hr ha hn).extends hext
      -- The acquisition and what follows it only add sessions, so what was read stays readable.
      have hall := ha.traffic.sessions.trans hext
      rw [show h' = ⟨h'.site, h'.service⟩ from rfl, hservice]
      cases ha with
      | inLine | shut | refused => simp at hn
      | found => exact hs.depart hr hall (.inl rfl) .inl hreads hd
      | opened i s hmay _ _ ht =>
          obtain rfl : h.site.backend.transport.sessions.length = n := by simpa using hn
          refine hs.depart hr hall (.inr (hs.mayOpen hr hmay).1) (fun {key m} hm => ?_) hreads hd
          rw [Table.get?_insert] at hm
          split at hm
          · next hkey =>
            cases hm
            exact .inr ⟨hkey, hreads⟩
          · exact .inl hm
  | refused e _ _ ha =>
      cases ha with
      | refused _ s hmay _ _ ht => exact hs.leave hr ht.sessions

theorem move (hs : h.Sound) (hm : Move Site.Extends h h') : h'.Sound := by
  cases hm with
  | task _ s hext => exact hs.task hext
  | enter queue group _ a _ he => exact hs.enters he
  | advance ticket r _ a _ hr ha => exact hs.advances hr ha
  | cancel ticket r _ hr => exact hs.leave hr (.refl _)
  | drop key _ hfree =>
      refine ⟨hs.service.forget hfree _, hs.waiting, fun {k n} hn => ?_⟩
      rw [Table.get?_erase] at hn
      split at hn
      · cases hn
      · exact hs.cached hn
  | clear _ hfree => exact ⟨hs.service.forget hfree ∅, hs.waiting, fun hn => by simp at hn⟩

theorem start (site : Site) (settings : Settings) : Sound ⟨site, { settings }⟩ where
  service := .start settings
  waiting hr := by simp at hr
  cached hn := by simp at hn

theorem step (hs : h.Sound) (e : Event) : (Host.step e h).2.Sound :=
  step_keep (fun _ _ hm hs => hs.move hm) e hs

theorem cached_inj (hs : h.Sound) {key key' : String} {n : Nat}
    (hn : h.service.sessions.get? key = some n) (hn' : h.service.sessions.get? key' = some n) :
    key = key' := by
  obtain ⟨queue, group, rfl, -, -, c, hc, rfl, rfl⟩ := hs.cached hn
  obtain ⟨queue', group', rfl, -, -, d, hd, rfl, rfl⟩ := hs.cached hn'
  rw [hc] at hd
  cases hd
  rfl

theorem cached_lt (hs : h.Sound) {key : String} {n : Nat}
    (hn : h.service.sessions.get? key = some n) :
    n < h.site.backend.transport.sessions.length := by
  obtain ⟨queue, group, -, -, -, c, hc, -⟩ := hs.cached hn
  exact (List.getElem?_eq_some_iff.mp hc).1

end Sound

theorem steps_sound (settings : Settings) (site : Site) (es : List Event) :
    (steps es ⟨site, { settings }⟩).2.Sound :=
  steps_keep (fun e _ hs => hs.step e) es (.start site settings)

end Host

end ManagedQueue
