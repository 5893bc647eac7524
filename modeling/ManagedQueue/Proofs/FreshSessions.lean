import ManagedQueue.Proofs.ClosedSessions
import ManagedQueue.Proofs.IdleHosts
import ManagedQueue.Proofs.PlaceInLine

namespace ManagedQueue

/-- The first of what a group has not been given, or nothing yet. -/
def Host.oldest : List Payload → Poll Host.Received
  | [] => .pending
  | payload :: _ => .ready (.ok payload)

namespace Backend

variable {closes : Nat → Prop} {saved : Snapshot} {b c : Backend} {queue group : String}

theorem delivery_of_undelivered {left : List Payload} (h : b.undelivered queue group = some left) :
    b.delivery queue group = Host.oldest left := by
  obtain ⟨⟨log, n⟩, hfeed, rfl⟩ := Option.map_eq_some_iff.mp h
  unfold delivery
  rw [hfeed]
  dsimp only
  rw [← List.head?_drop]
  cases log.drop n <;> rfl

theorem undelivered_of_live (hlive : b.registry.topics.contains queue) (group : String) :
    ∃ left, b.undelivered queue group = some left := by
  obtain ⟨i, hi⟩ := Registry.incarnation_of_live hlive
  unfold undelivered
  rw [feed_of_bind hi]
  exact ⟨_, rfl⟩

theorem Evolves.undelivered_eq (h : Evolves closes b [] c) (hb : b.Numbered saved) (queue group : String) :
    c.undelivered queue group = b.undelivered queue group := by
  rw [Backend.undelivered, Backend.undelivered, h.feed_eq hb]

theorem Evolves.undelivered_tail {left : List Payload}
    (h : Evolves closes b (Host.handed queue group (b.delivery queue group)) c) (hb : b.Numbered saved)
    (hleft : b.undelivered queue group = some left) : c.undelivered queue group = some left.tail := by
  rw [delivery_of_undelivered hleft] at h
  cases left with
  | nil => exact (h.undelivered_eq hb queue group).trans hleft
  | cons payload rest =>
      obtain ⟨⟨log, n⟩, hfeed, hdrop⟩ := Option.map_eq_some_iff.mp hleft
      have hgiven := h.feed hb queue group fun hmem => by cases List.mem_singleton.mp hmem
      rw [hfeed] at hgiven
      cases hgiven with
      | received _ hlast =>
          rw [Backend.undelivered, hlast.eq_of_nil, Option.map_some, ← List.tail_drop, hdrop]
      | aside hx => exact absurd ⟨rfl, rfl⟩ hx

end Backend

namespace Host

open Site Operation

variable {saved : Snapshot} {h h' : Host} {ticket : Nat} {r : Receive} {queue group : String}
variable {answer : Poll Received} {calls : List Call}

/-- How a receive is answered that finds no session: by a failure that was planned for one of its calls,
not yet while openings wait at the gate, or with what is next for its group. -/
inductive Fresh (calls : List Call) (queue group : String) (h : Host) : Poll Received → Prop
  | struck (c context e) (hc : c ∈ calls) (he : h.site.struck c = some e) :
      Fresh calls queue group h (.ready (.error (.collaborator receiveOp queue context e)))
  | shut (hgate : h.site.gateShut = true) : Fresh calls queue group h .pending
  | opened (hgate : h.site.gateShut = false) :
      Fresh calls queue group h (h.site.backend.delivery queue group)

theorem acquire_tryOpen (hmay : h.MayOpen ticket r) : acquire ticket r h = tryOpen ticket r h := by
  unfold acquire
  split
  · rfl
  · next hstage =>
    obtain ⟨howner, hnone⟩ := hmay.resolve_left hstage
    rw [bind_apply, get_apply]
    dsimp only
    rw [if_pos howner, bind_apply, get_apply]
    dsimp only
    rw [hnone]

theorem tryOpen_struck (hgate : h.site.gateShut = false) {e : CollaboratorError}
    (he : h.site.struck .openSession = some e) : (tryOpen ticket r h).1 = .refused e := by
  unfold tryOpen openNow
  rw [bind_apply, get_apply]
  dsimp only
  rw [if_neg (by simp [hgate]), bind_apply, get_apply, bind_apply, onSite_apply, attempt_run, he]
  rfl

theorem listen_struck {session : Nat} {e : CollaboratorError} (he : h.site.struck .receive = some e) :
    (listen ticket r session h).1 = .ready (.error (failed r e)) := by
  unfold listen
  rw [bind_apply, onSite_apply, planned_run, he]
  rfl

theorem advance_fresh (hstage : ∀ n w, r.stage ≠ .waiting n w) (howner : h.service.lock.owner = some ticket)
    (hnone : h.service.sessions.get? (sessionKey r.queue r.group) = none)
    (hbrokers : h.service.settings.brokers ≠ []) (hlive : h.site.backend.registry.topics.contains r.queue) :
    Fresh [.openSession, .receive] r.queue r.group h (advance ticket r h).1 := by
  have hopening {e : CollaboratorError} (hgate : h.site.gateShut = false)
      (he : h.site.struck .openSession = some e) : (acquire ticket r h).1 = .refused e := by
    rw [acquire_tryOpen (.inr ⟨howner, hnone⟩), tryOpen_struck hgate he]
  -- Opening leaves the faults planned for the reading call alone.
  have hlistens : (acquire ticket r h).2.site.struck .receive = h.site.struck .receive :=
    acquire_keeps (struck_aside .receive _) (fun _ hs => (struck_counted (by decide)).trans hs) ticket r h rfl
  have ha := acquire_acquires ticket r h
  rw [advance_run ticket r h hstage]
  generalize acquire ticket r h = out at ha hopening hlistens ⊢
  rcases out with ⟨a, h'⟩
  cases ha with
  | inLine _ hno => exact absurd howner hno
  | shut _ hgate => exact .shut hgate
  | found n _ _ hn =>
      rw [hnone] at hn
      cases hn
  | refused e s _ _ he =>
      rcases he with he | hopens
      · exact .struck .openSession _ e (.head _) he
      · cases hopens with
        | unavailable hb => exact absurd hb hbrokers
        | missing hi =>
            obtain ⟨i, hfound⟩ := Registry.incarnation_of_live hlive
            rw [hfound] at hi
            cases hi
  | opened i s _ hgate hi ht hb =>
      dsimp only
      cases he : h.site.struck .receive with
      | some e =>
          rw [listen_struck (hlistens.trans he)]
          exact .struck .receive _ e (.tail _ (.head _)) he
      | none =>
          have hopens : Opens h.service.settings.brokers r.queue r.group h.site _ s := .opened i s hi ht hb
          obtain ⟨hsession, hfeed⟩ := hopens.opened_session
          rw [listen_answer (hlistens.trans he) hsession, Backend.delivery_of_feed (b := h.site.backend) hfeed]
          exact .opened hgate

theorem checkReceive_live {s : Site} (hqueue : nameFault? queue = none) (hgroup : nameFault? group = none)
    (hlive : s.backend.registry.topics.contains queue) :
    (∃ e t, s.struck .existTopic = some e ∧
      checkReceive queue group s = (.error (.collaborator receiveOp queue none e), t)) ∨
    ∃ t, s.Glance t ∧ (∀ c, c ≠ .existTopic → t.struck c = s.struck c) ∧
      checkReceive queue group s = (.ok (), t) := by
  cases he : s.struck .existTopic with
  | some e =>
      left
      have hexists : topicExists .lenient receiveOp queue s =
          (.error (.collaborator receiveOp queue none e), s.counted .existTopic) := by
        unfold topicExists
        rw [ask_run, he]
      refine ⟨e, s.counted .existTopic, rfl, ?_⟩
      unfold checkReceive requireTopic
      rw [bind_of_ok (requireName_of_none hqueue s), bind_of_ok (requireName_of_none hgroup s),
        bind_of_error hexists]
  | none =>
      right
      obtain ⟨t, ht, hstruck, hrun⟩ := checkReceive_run he queue group
      refine ⟨t, ht, hstruck, ?_⟩
      rw [hrun, obstacle_of_named hqueue hgroup, Registry.knows, hlive, Bool.or_true]
      rfl

theorem Fresh.before (hf : Fresh [.openSession, .receive] queue group h' answer) (ht : h.site.Glance h'.site)
    (hstruck : ∀ c, c ≠ .existTopic → h'.site.struck c = h.site.struck c) :
    Fresh [.existTopic, .openSession, .receive] queue group h answer := by
  cases hf with
  | struck c context e hc he =>
      have hcall : c ≠ .existTopic := by
        rintro rfl
        simp at hc
      exact .struck c context e (.tail _ hc) (hstruck c hcall ▸ he)
  | shut hgate => exact .shut (ht.gateShut ▸ hgate)
  | opened hgate =>
      rw [Backend.delivery_of_feed (ht.feed _ _)]
      exact .opened (ht.gateShut ▸ hgate)

theorem start_fresh (hqueue : nameFault? queue = none) (hgroup : nameFault? group = none)
    (hfree : h.service.lock.owner = none) (hnone : h.service.sessions.get? (sessionKey queue group) = none)
    (hbrokers : h.service.settings.brokers ≠ []) (hlive : h.site.backend.registry.topics.contains queue) :
    Fresh [.existTopic, .openSession, .receive] queue group h (start queue group h).1.2 := by
  rw [start_run, enter_run]
  obtain ⟨e, t, he, hrun⟩ | ⟨t, ht, hstruck, hrun⟩ := checkReceive_live hqueue hgroup hlive
  · rw [hrun]
    exact .struck .existTopic none e (.head _) he
  · rw [hrun]
    let entered : Host := ⟨t, { h.service with
      nextTicket := h.service.nextTicket + 1
      receives := h.service.receives.insert h.service.nextTicket ⟨queue, group, .inLine⟩
      lock := h.service.lock.ask h.service.nextTicket }⟩
    have hfresh : Fresh [.openSession, .receive] queue group entered
        (advance h.service.nextTicket ⟨queue, group, .inLine⟩ entered).1 :=
      advance_fresh (r := ⟨queue, group, .inLine⟩) (by simp) (by simp [entered, Lock.ask, hfree]) hnone
        hbrokers (ht.topics ▸ hlive)
    exact hfresh.before ht hstruck

/-- A session is opened for the group under its key, and the oldest message that the group has not been
given is the answer. Without one the receive waits. -/
structure Reopens (queue group : String) (answer : Poll Received) (before after : Host) : Prop where
  cached : after.service.sessions.get? (sessionKey queue group) =
    some before.site.backend.transport.sessions.length
  opened : after.site.backend.transport.sessions[before.site.backend.transport.sessions.length]? =
    some ⟨queue, group, false⟩
  served : ∃ left, before.site.backend.undelivered queue group = some left ∧
    after.site.backend.undelivered queue group = some left.tail ∧
    answer = oldest left

/-- A session is opened, unless a failure was planned for one of the calls or openings wait at the gate.
Then no group has lost a message. -/
inductive Resumes (calls : List Call) (queue group : String) (before after : Host) : Poll Received → Prop
  | reopened (a) (h : Reopens queue group a before after) : Resumes calls queue group before after a
  | struck (c context e) (hc : c ∈ calls) (he : before.site.struck c = some e)
      (hleft : ∀ q g, after.site.backend.undelivered q g = before.site.backend.undelivered q g) :
      Resumes calls queue group before after (.ready (.error (.collaborator receiveOp queue context e)))
  | shut (hgate : before.site.gateShut = true)
      (hleft : ∀ q g, after.site.backend.undelivered q g = before.site.backend.undelivered q g) :
      Resumes calls queue group before after .pending

theorem Resumes.reopens (hr : Resumes calls queue group h h' answer) (hgate : h.site.gateShut = false)
    (hcalls : ∀ c ∈ calls, h.site.struck c = none) : Reopens queue group answer h h' := by
  cases hr with
  | reopened _ hreopens => exact hreopens
  | struck c context e hc he =>
      rw [hcalls c hc] at he
      cases he
  | shut hshut =>
      rw [hgate] at hshut
      cases hshut

theorem Advances.opens (ha : Advances ticket r h answer h')
    (hs : h.Sound) (hr : h.service.receives.get? ticket = some r) (hstage : ∀ n w, r.stage ≠ .waiting n w)
    (howner : h.service.lock.owner = some ticket)
    (hnone : h.service.sessions.get? (sessionKey r.queue r.group) = none)
    (hgate : h.site.gateShut = false) (hanswer : ∀ e, answer ≠ .ready (.error e)) :
    let n := h.site.backend.transport.sessions.length
    h'.service.sessions.get? (sessionKey r.queue r.group) = some n ∧
      h'.site.backend.transport.sessions[n]? = some ⟨r.queue, r.group, false⟩ := by
  intro n
  cases ha with
  | idle n w hwaiting | woken n w _ _ hwaiting => exact absurd hwaiting (hstage n w)
  | waits _ _ ha =>
      cases ha with
      | inLine _ hno => exact absurd howner hno
      | shut _ hshut =>
          rw [hgate] at hshut
          cases hshut
  | refused e => exact absurd rfl (hanswer _)
  | served a m h₁ _ _ _ ha hm hl =>
      obtain ⟨receives, hservice, -⟩ := hl.settles
      -- Reading from the new session neither closes it nor moves it.
      have hlast : Backend.Evolves (fun _ => False) h₁.site.backend _ h'.site.backend :=
        hl.evolves (hs.acquires_reads hr ha hm)
      cases ha with
      | inLine | shut | refused => simp at hm
      | found m _ _ hcached =>
          rw [hnone] at hcached
          cases hcached
      | opened i s _ _ _ ht =>
          obtain rfl : n = m := by simpa using hm
          have hopened : s.backend.transport.sessions[n]? = some ⟨r.queue, r.group, false⟩ := by
            rw [ht.transport]
            exact List.getElem?_concat_length
          exact ⟨by rw [hservice]; exact Table.get?_insert_self _ _ _,
            hlast.stays_open hl.traffic.sessions id hopened⟩

theorem Fresh.resumes (hf : Fresh calls queue group h answer) (hb : h.site.backend.Numbered saved)
    (hlive : h.site.backend.registry.topics.contains queue)
    (hevolves : Backend.Evolves (fun _ => False) h.site.backend (handed queue group answer) h'.site.backend)
    (hopens : h.site.gateShut = false → (∀ e, answer ≠ .ready (.error e)) →
      let n := h.site.backend.transport.sessions.length
      h'.service.sessions.get? (sessionKey queue group) = some n ∧
        h'.site.backend.transport.sessions[n]? = some ⟨queue, group, false⟩) :
    Resumes calls queue group h h' answer := by
  cases hf with
  | struck c context e hc he => exact .struck c context e hc he (hevolves.undelivered_eq hb)
  | shut hgate => exact .shut hgate (hevolves.undelivered_eq hb)
  | opened hgate =>
      obtain ⟨hcached, hopened⟩ := hopens hgate (Backend.delivery_of_live hlive group)
      obtain ⟨left, hleft⟩ := Backend.undelivered_of_live hlive group
      exact .reopened _ ⟨hcached, hopened, left, hleft, hevolves.undelivered_tail hb hleft,
        Backend.delivery_of_undelivered hleft⟩

theorem advance_resumes (hs : h.Sound) (hb : h.site.backend.Numbered saved)
    (hr : h.service.receives.get? ticket = some r) (hstage : ∀ n w, r.stage ≠ .waiting n w)
    (howner : h.service.lock.owner = some ticket)
    (hnone : h.service.sessions.get? (sessionKey r.queue r.group) = none)
    (hbrokers : h.service.settings.brokers ≠ [])
    (hlive : h.site.backend.registry.topics.contains r.queue) :
    Resumes [.openSession, .receive] r.queue r.group h (advance ticket r h).2 (advance ticket r h).1 := by
  have ha := advance_advances ticket r h
  exact (advance_fresh hstage howner hnone hbrokers hlive).resumes hb hlive (ha.evolves hs hr)
    (ha.opens hs hr hstage howner hnone)

theorem start_resumes (hs : h.Sound) (hb : h.site.backend.Numbered saved)
    (hqueue : nameFault? queue = none) (hgroup : nameFault? group = none)
    (hfree : h.service.lock.owner = none)
    (hnone : h.service.sessions.get? (sessionKey queue group) = none)
    (hbrokers : h.service.settings.brokers ≠ [])
    (hlive : h.site.backend.registry.topics.contains queue) :
    ∃ answer h', start queue group h = ((h.service.nextTicket, answer), h') ∧
      Resumes [.existTopic, .openSession, .receive] queue group h h' answer := by
  have hticket := start_ticket queue group h
  have hfresh := start_fresh hqueue hgroup hfree hnone hbrokers hlive
  refine ⟨(start queue group h).1.2, _, hticket ▸ rfl,
    hfresh.resumes hb hlive (start_evolves hs queue group) fun hgate hanswer => ?_⟩
  obtain ⟨e, h', -, hrun⟩ | ⟨h₁, he, hrun⟩ := start_cases queue group h
  · rw [hrun] at hanswer
    exact absurd rfl (hanswer e)
  · rw [hrun] at hanswer ⊢
    have hopens := (advance_advances _ _ h₁).opens (hs.enters he) he.outstanding he.atLock
    cases he with
    | entered s _ _ ht =>
        have hopened := hopens (by simp [Lock.ask, hfree]) hnone (ht.gateShut.trans hgate) hanswer
        rw [ht.transport] at hopened
        exact hopened

theorem poll_resumes (hs : h.Sound) (hb : h.site.backend.Numbered saved)
    (hres : h.Reserved queue group ticket) (howner : h.service.lock.owner = some ticket)
    (hbrokers : h.service.settings.brokers ≠ [])
    (hlive : h.site.backend.registry.topics.contains queue) :
    ∃ answer h', poll ticket h = (some answer, h') ∧
      Resumes [.openSession, .receive] queue group h h' answer := by
  have hmem : ticket ∈ h.service.lock.tickets := by simp [Lock.tickets, howner]
  obtain ⟨r, hr, hlock⟩ := (hs.service.atLock ticket).mp hmem
  obtain ⟨rfl, rfl⟩ := hres.own hr
  exact ⟨_, _, poll_some hr, advance_resumes hs hb hr ((Stage.atLock_iff _).mp hlock) howner
    (hres.absent hmem) hbrokers hlive⟩

end Host

end ManagedQueue
