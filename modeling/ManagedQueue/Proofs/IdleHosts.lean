import ManagedQueue.Proofs.FailedOperations
import ManagedQueue.Proofs.LikeSites
import ManagedQueue.Proofs.LockRelease

namespace ManagedQueue

variable {gone : String → Prop}

def Keeps {σ α : Type} (P : σ → Prop) (x : StateM σ α) : Prop := ∀ s, P s → P (x s).2

namespace Keeps

variable {σ α β : Type} {P : σ → Prop}

theorem pure (a : α) : Keeps P (Pure.pure a : StateM σ α) := fun _ h => h

theorem get : Keeps P (MonadState.get : StateM σ σ) := fun _ h => h

theorem update {f : σ → σ} (hf : ∀ s, P s → P (f s)) : Keeps P (modify f : StateM σ PUnit) := hf

theorem bind {x : StateM σ α} {f : α → StateM σ β} (hx : Keeps P x) (hf : ∀ a, Keeps P (f a)) :
    Keeps P (x >>= f) := fun s h => hf _ _ (hx s h)

theorem followed {Q : Site → Prop} {x : Operation α} {f : α → Operation β} (hx : Keeps Q x)
    (hf : ∀ a, Keeps Q (f a)) : Keeps Q (x >>= f : Operation β) := by
  intro s h
  have hfirst := hx s h
  rw [Operation.bind_run]
  rcases hr : x s with ⟨e | a, t⟩
  · rw [hr] at hfirst
    exact hfirst
  · rw [hr] at hfirst
    exact hf a t hfirst

end Keeps

namespace Registry

def knows (r : Registry) (queue : String) : Bool := r.cached.contains queue || r.topics.contains queue

theorem exist_lenient (r : Registry) (queue : String) : (r.exist queue false).1 = r.knows queue := by
  have hrefreshed : r.refresh.cached.contains queue = r.topics.contains queue := by
    rw [Bool.eq_iff_iff, List.contains_iff_mem, Table.contains_iff_mem_keys]
    rfl
  unfold exist knows
  cases hcached : r.cached.contains queue with
  | true => simp
  | false =>
      rw [if_neg (by simp), hrefreshed]
      rfl

theorem Known.exist {r : Registry} (h : r.Known gone) (queue : String) (force : Bool) :
    (r.exist queue force).2.Known gone := by
  unfold Registry.exist
  split
  · exact h
  · exact .refresh _ _

end Registry

namespace Site

variable {s t : Site}

theorem Calm.withTransport (h : s.Calm gone) (u : Transport) : (s.withTransport u).Calm gone :=
  ⟨h.faults, h.drift, h.gateShut, h.known⟩

theorem Calm.withMetrics (h : s.Calm gone) (m : Metrics) : (s.withMetrics m).Calm gone :=
  ⟨h.faults, h.drift, h.gateShut, h.known⟩

/-- The property has to do neither with messages nor with the journal. -/
structure Aside (P : Site → Prop) : Prop where
  transport : ∀ {s} (u : Transport), P s → P (s.withTransport u)
  note : ∀ {s} (level : Level) (component : Component) (text : String), P s →
    P (Site.note level component text s).2

namespace Aside

variable {P : Site → Prop}

theorem attach (hP : Aside P) (queue : String) : Keeps P (attach queue) := by
  refine .bind .get fun s => ?_
  dsimp only
  split
  · exact .pure _
  · refine .bind (fun s => hP.transport (s := s) _) fun _ => ?_
    split
    · exact .bind (fun s => hP.note (s := s) _ _ _) fun _ => .pure _
    · exact .pure _

theorem produce (hP : Aside P) (queue : String) (payload : Payload) : Keeps P (produce queue payload) := by
  refine .bind (hP.attach queue) fun answer => ?_
  split
  · exact .pure _
  · exact .bind .get fun _ => .bind (fun s => hP.transport (s := s) _) fun _ => .pure _

theorem openSession (hP : Aside P) (addresses : List String) (queue group : String) :
    Keeps P (openSession addresses queue group) := by
  unfold Site.openSession
  split
  · exact .pure _
  · refine .bind (hP.attach queue) fun answer => ?_
    split
    · exact .pure _
    · exact .bind .get fun _ => .bind (fun s => hP.transport (s := s) _) fun _ =>
        .bind (fun s => hP.note (s := s) _ _ _) fun _ => .pure _

theorem look (hP : Aside P) (session : Nat) : Keeps P (look session) := by
  refine .bind .get fun s => ?_
  split
  · exact .pure _
  · split
    · exact .pure _
    · refine .bind (hP.attach _) fun answer => ?_
      split
      · exact .pure _
      · exact .bind .get fun _ => .bind (fun s => hP.transport (s := s) _) fun _ => .pure _

theorem attempt {α : Type} {c : Call} (hcounted : ∀ s, P s → P (s.counted c))
    {task : Task (Except CollaboratorError α)} (h : Keeps P task) : Keeps P (Operation.attempt c task) := by
  intro s hs
  rw [Operation.attempt_run]
  cases s.struck c with
  | some e => exact hcounted s hs
  | none => exact h _ (hcounted s hs)

end Aside

theorem struck_aside (c : Call) (e : Option CollaboratorError) : Aside fun s => s.struck c = e :=
  ⟨fun _ h => h, fun _ _ _ h => h⟩

theorem calm_aside : Aside (Calm gone) where
  transport _ h := h.withTransport _
  note _ _ _ h := ⟨h.faults, h.drift, h.gateShut, h.known⟩

theorem Calm.struck (h : s.Calm gone) (c : Call) : s.struck c = none := by
  unfold Site.struck
  rw [h.faults]
  rfl

theorem Calm.counted (h : s.Calm gone) (c : Call) : (s.counted c).Calm gone := by
  refine ⟨fun d => ?_, h.drift, h.gateShut, h.known⟩
  unfold Site.counted
  dsimp only
  rw [h.faults, h.faults]
  exact ite_self _

theorem existTopic_calm (name : String) (force : Bool) : Keeps (Calm gone) (existTopic name force) :=
  fun _ h => ⟨h.faults, h.drift, h.gateShut, h.known.exist name force⟩

theorem record_calm (direction : Direction) (queue group : String) (count : UInt64) :
    Keeps (Calm gone) (record direction queue group count) := fun _ h => h.withMetrics _

theorem Glance.feed (h : s.Glance t) (queue group : String) :
    t.backend.feed queue group = s.backend.feed queue group := by
  rw [Backend.feed, Backend.feed, h.incarnation?, h.transport]

/-- Why an operation on the messages of a queue fails before it comes to them. -/
def obstacle? (s : Site) (op queue group : String) : Option ServiceError :=
  match nameFault? queue, nameFault? group with
  | some fault, _ => some (.invalidArgument (fault.message "Queue" queue))
  | none, some fault => some (.invalidArgument (fault.message "Group" group))
  | none, none => if s.backend.registry.knows queue then none else some (.notFound op queue none)

theorem obstacle_of_named {queue group : String} (hqueue : nameFault? queue = none)
    (hgroup : nameFault? group = none) (op : String) : s.obstacle? op queue group =
      if s.backend.registry.knows queue then none else some (.notFound op queue none) := by
  unfold obstacle?
  rw [hqueue, hgroup]

end Site

namespace Operation

open Site

variable {α : Type} {s : Site}

theorem attempt_calm (c : Call) {task : Task (Except CollaboratorError α)} (h : Keeps (Calm gone) task) :
    Keeps (Calm gone) (attempt c task) := Aside.attempt (fun _ hs => hs.counted c) h

theorem call_calm (c : Call) (failed : CollaboratorError → ServiceError)
    {task : Task (Except CollaboratorError α)} (h : Keeps (Calm gone) task) :
    Keeps (Calm gone) (call c failed task : Operation α) := by
  intro s hs
  have hcalm := attempt_calm c h s hs
  rw [call_run]
  rcases hr : attempt c task s with ⟨e | a, t⟩ <;> rw [hr] at hcalm <;> exact hcalm

theorem requireName_calm (kind value : String) : Keeps (Calm gone) (requireName kind value) := by
  unfold requireName
  split <;> exact fun _ h => h

theorem requireTopic_calm (freshness : Freshness) (op queue : String) :
    Keeps (Calm gone) (requireTopic freshness op queue) := by
  refine .followed (call_calm _ _ (.bind (existTopic_calm _ _) fun _ => .pure _)) fun found => ?_
  split <;> exact fun _ h => h

theorem requireTopic_lenient (h : s.struck .existTopic = none) (op queue : String) :
    ∃ t, s.Glance t ∧ (∀ c, c ≠ .existTopic → t.struck c = s.struck c) ∧ requireTopic .lenient op queue s =
      (if s.backend.registry.knows queue then .ok () else .error (.notFound op queue none), t) := by
  let checked := existTopic queue false (s.counted .existTopic)
  refine ⟨checked.2, (Glance.counted s _).trans (existTopic_glance queue false _),
    fun c hc => struck_counted hc, ?_⟩
  have hexists : topicExists .lenient op queue s = (.ok (s.backend.registry.knows queue), checked.2) := by
    rw [← Registry.exist_lenient]
    unfold topicExists
    rw [ask_run, h]
    rfl
  unfold requireTopic
  rw [bind_of_ok hexists]
  split <;> rfl

theorem checks_run (h : s.struck .existTopic = none) (op queue group : String) (go : Unit → Operation α) :
    ∃ t, s.Glance t ∧ (∀ c, c ≠ .existTopic → t.struck c = s.struck c) ∧
      (do requireName "Queue" queue; requireName "Group" group; requireTopic .lenient op queue >>= go :
        Operation α) s =
      match s.obstacle? op queue group with
      | some e => (.error e, t)
      | none => go () t := by
  unfold obstacle?
  cases hq : nameFault? queue with
  | some fault =>
      refine ⟨s, .refl s, fun _ _ => rfl, ?_⟩
      rw [bind_of_error (requireName_of_some hq s)]
  | none =>
      rw [bind_of_ok (requireName_of_none hq s)]
      cases hg : nameFault? group with
      | some fault =>
          refine ⟨s, .refl s, fun _ _ => rfl, ?_⟩
          rw [bind_of_error (requireName_of_some hg s)]
      | none =>
          rw [bind_of_ok (requireName_of_none hg s)]
          obtain ⟨t, ht, hstruck, hrun⟩ := requireTopic_lenient h op queue
          refine ⟨t, ht, hstruck, ?_⟩
          dsimp only
          cases hknown : s.backend.registry.knows queue with
          | true =>
              rw [hknown] at hrun
              exact bind_of_ok hrun _
          | false =>
              rw [hknown] at hrun
              exact bind_of_error hrun _

end Operation

namespace Host

open Site Operation

variable {s : Site}

def sending (s : Site) (queue group : String) : Except ServiceError Unit :=
  match s.obstacle? "SendMessage" queue group with
  | some e => .error e
  | none =>
    if s.backend.registry.topics.contains queue then .ok ()
    else .error (.collaborator "SendMessage" queue (some group) (.missingTopic queue))

theorem send_answer (hexists : s.struck .existTopic = none) (hproduce : s.struck .produce = none)
    (queue group : String) (payload : Payload) :
    (send queue group payload s).1 = sending s queue group := by
  obtain ⟨t, ht, hstruck, hrun⟩ := checks_run hexists "SendMessage" queue group fun _ => do
    call .produce (.collaborator "SendMessage" queue (some group)) (Site.produce queue payload)
    liftM (Site.record .send queue group 1)
    Operation.note .debug .gateway s!"sent {payload.length} bytes to {sessionKey queue group}"
  change send queue group payload s = _ at hrun
  rw [hrun]
  unfold sending
  cases hobstacle : s.obstacle? "SendMessage" queue group with
  | some e => rfl
  | none =>
      have hchecked := ht.trans (.counted t .produce)
      have hunstruck : t.struck .produce = none := (hstruck _ (by decide)).trans hproduce
      dsimp only
      rw [← Registry.isSome_incarnation, ← hchecked.incarnation?, bind_run, call_run, attempt_run, hunstruck]
      obtain ⟨hi, hr⟩ | ⟨i, u, hi, hr, -⟩ := produce_cases queue payload (t.counted .produce)
      · simp only [hr, hi]
        rfl
      · simp only [hr, hi]
        rfl

theorem send_calm (queue group : String) (payload : Payload) :
    Keeps (Calm gone) (send queue group payload) :=
  .followed (requireName_calm _ _) fun _ => .followed (requireName_calm _ _) fun _ =>
    .followed (requireTopic_calm _ _ _) fun _ => .followed (call_calm _ _ (calm_aside.produce _ _)) fun _ =>
      .bind (record_calm _ _ _ _) fun _ _ h => calm_aside.note _ _ _ h

abbrev Calm (gone : String → Prop) (h : Host) : Prop := h.site.Calm gone

theorem onSite_calm {α : Type} {task : Task α} (ht : Keeps (Site.Calm gone) task) :
    Keeps (Calm gone) (onSite task) := fun h hcalm => ht h.site hcalm

theorem modifyService_calm (f : Service → Service) : Keeps (Calm gone) (modifyService f) := fun _ h => h

theorem finish_calm {α : Type} (ticket : Nat) (answer : α) : Keeps (Calm gone) (finish ticket answer) :=
  .bind (modifyService_calm _) fun _ => .pure _

theorem lookNow_calm (ticket : Nat) (r : Receive) (session : Nat) :
    Keeps (Calm gone) (lookNow ticket r session) := by
  refine .bind (onSite_calm (calm_aside.look session)) fun answer => ?_
  split
  · exact finish_calm _ _
  · exact .bind .get fun _ => .bind (modifyService_calm _) fun _ => .pure _
  · exact .bind (onSite_calm (record_calm _ _ _ _)) fun _ =>
      .bind (onSite_calm fun _ h => calm_aside.note _ _ _ h) fun _ => finish_calm _ _

theorem listen_calm (ticket : Nat) (r : Receive) (session : Nat) :
    Keeps (Calm gone) (listen ticket r session) := by
  have hplanned : Keeps (Site.Calm gone) (planned .receive) := by
    intro s hs
    rw [planned_run]
    exact hs.counted _
  refine .bind (onSite_calm hplanned) fun answer => ?_
  split
  · exact finish_calm _ _
  · exact lookNow_calm _ _ _

theorem acquire_keeps {P : Site → Prop} (hP : Aside P) (hcounted : ∀ s, P s → P (s.counted .openSession))
    (ticket : Nat) (r : Receive) : Keeps (fun h => P h.site) (acquire ticket r) := by
  have honSite {α : Type} {task : Task α} (ht : Keeps P task) : Keeps (fun h => P h.site) (onSite task) :=
    fun h => ht h.site
  have hservice (f : Service → Service) : Keeps (fun h => P h.site) (modifyService f) := fun _ h => h
  have htry : Keeps (fun h => P h.site) (tryOpen ticket r) := by
    refine .bind .get fun h => ?_
    split
    · exact .bind (hservice _) fun _ => .pure _
    · refine .bind .get fun h =>
        .bind (honSite (Aside.attempt hcounted (hP.openSession _ _ _))) fun answer => ?_
      split
      · exact .bind (hservice _) fun _ => .pure _
      · exact .bind (hservice _) fun _ => .bind .get fun _ =>
          .bind (honSite fun _ h => hP.note _ _ _ h) fun _ => .bind (hservice _) fun _ => .pure _
  -- The branches of the acquisition, each a sequence of parts that keep the property.
  unfold acquire
  split
  · exact htry
  · refine .bind .get fun h => ?_
    split
    · refine .bind .get fun h => ?_
      split
      · exact .bind (hservice _) fun _ => .pure _
      · exact htry
    · exact .pure _

theorem acquire_calm (ticket : Nat) (r : Receive) : Keeps (Calm gone) (acquire ticket r) :=
  acquire_keeps calm_aside (fun _ h => h.counted _) ticket r

theorem advance_calm (ticket : Nat) (r : Receive) : Keeps (Calm gone) (advance ticket r) := by
  unfold advance
  split
  · refine .bind .get fun h => ?_
    split
    · exact .pure _
    · exact lookNow_calm _ _ _
  · refine .bind (acquire_calm _ _) fun a => ?_
    split
    · exact .pure _
    · exact listen_calm _ _ _
    · exact listen_calm _ _ _
    · exact finish_calm _ _

end Host

/-- What the next message of the group comes to: there may be no topic, or nothing to deliver yet. -/
def Backend.delivery (b : Backend) (queue group : String) : Poll Host.Received :=
  match b.feed queue group with
  | none => .ready (.error (.collaborator Host.receiveOp queue (some group) (.missingTopic queue)))
  | some (log, n) =>
    match log[n]? with
    | none => .pending
    | some payload => .ready (.ok payload)

theorem Backend.delivery_of_missing {b : Backend} {queue : String}
    (hnone : b.registry.incarnation? queue = none) (group : String) : b.delivery queue group =
      .ready (.error (.collaborator Host.receiveOp queue (some group) (.missingTopic queue))) := by
  unfold delivery feed
  rw [hnone]
  rfl

theorem Backend.delivery_of_feed {b c : Backend} {queue group : String}
    (h : c.feed queue group = b.feed queue group) : c.delivery queue group = b.delivery queue group := by
  unfold delivery
  rw [h]

theorem Backend.delivery_of_live {b : Backend} {queue : String} (hlive : b.registry.topics.contains queue)
    (group : String) (e : ServiceError) : b.delivery queue group ≠ .ready (.error e) := by
  obtain ⟨i, hi⟩ := Registry.incarnation_of_live hlive
  unfold delivery
  rw [feed_of_bind hi]
  dsimp only
  split <;> simp

namespace Host

open Site Operation

variable {h : Host} {ticket : Nat} {r : Receive}

theorem lookNow_answer {session : Nat}
    (hopen : h.site.backend.transport.sessions[session]? = some ⟨r.queue, r.group, false⟩) :
    (lookNow ticket r session h).1 = h.site.backend.delivery r.queue r.group := by
  have hl := lookNow_looksNow ticket r session h
  have hlook {answer : Except CollaboratorError (Option Payload)} {s : Site}
      (hs : Looks session h.site answer s) := hs.answer_eq hopen
  unfold Backend.delivery
  generalize lookNow ticket r session h = out at hl ⊢
  rcases out with ⟨answer, h'⟩
  rcases hfeed : h.site.backend.feed r.queue r.group with _ | ⟨log, n⟩
  -- Without a topic a look fails, and with one it sees whether there is a message.
  · rw [hfeed] at hlook
    cases hl with
    | failed e s hs =>
        cases hlook hs
        rfl
    | quiet s hs => cases hlook hs
    | received payload s t hs => cases hlook hs
  · rw [hfeed] at hlook
    cases hl with
    | failed e s hs => cases hlook hs
    | quiet s hs => simp only [(Except.ok.inj (hlook hs)).symm]
    | received payload s t hs => simp only [(Except.ok.inj (hlook hs)).symm]

theorem listen_answer {session : Nat} (hstruck : h.site.struck .receive = none)
    (hopen : h.site.backend.transport.sessions[session]? = some ⟨r.queue, r.group, false⟩) :
    (listen ticket r session h).1 = h.site.backend.delivery r.queue r.group := by
  let counted : Host := ⟨h.site.counted .receive, h.service⟩
  have hrun : listen ticket r session h = lookNow ticket r session counted := by
    unfold listen
    rw [bind_apply, onSite_apply, planned_run, hstruck]
  rw [hrun]
  exact lookNow_answer (h := counted) hopen

/-- An opening waits while the gate is shut. A session that is there already needs none. -/
def gated (h : Host) (queue group : String) : Bool :=
  h.site.gateShut && !h.service.sessions.contains (sessionKey queue group)

/-- A receive of the group comes by an open session and listens on it, unless it has to wait for the
lock or at the gate. -/
structure Unhindered (h : Host) (queue group : String) : Prop where
  brokers : h.service.settings.brokers ≠ []
  opens : h.site.struck .openSession = none
  listens : h.site.struck .receive = none
  unclosed : ∀ {n c}, h.service.sessions.get? (sessionKey queue group) = some n →
    h.site.backend.transport.sessions[n]? = some c → c.closed = false

/-- A receive that owns the lock goes on to the messages at once, or waits at the gate. -/
theorem advance_answer (hs : h.Sound) (hr : h.service.receives.get? ticket = some r)
    (hu : h.Unhindered r.queue r.group) (hstage : ∀ n w, r.stage ≠ .waiting n w)
    (howner : h.service.lock.owner = some ticket) :
    (advance ticket r h).1 =
      if h.gated r.queue r.group then .pending else h.site.backend.delivery r.queue r.group := by
  have ha := acquire_acquires ticket r h
  have hlistens : (acquire ticket r h).2.site.struck .receive = none :=
    acquire_keeps (struck_aside .receive none) (fun _ hs => (struck_counted (by decide)).trans hs)
      ticket r h hu.listens
  -- A session that is acquired reads the queue and group of the receive, cached or new.
  have hread {a : Acquisition} {h' : Host} (ha : Acquires ticket r h a h') {n : Nat}
      (hn : a = .found n ∨ a = .opened n) := hs.acquires_reads hr ha hn
  have huncached (hmay : h.MayOpen ticket r) :
      h.service.sessions.contains (sessionKey r.queue r.group) = false := by
    rw [Table.contains, (hs.mayOpen hr hmay).2]
    rfl
  rw [advance_run ticket r h hstage]
  generalize acquire ticket r h = out at ha hlistens ⊢
  rcases out with ⟨a, h'⟩
  cases ha with
  | inLine _ hno => exact absurd howner hno
  | shut hmay hgate =>
      have hgated : h.gated r.queue r.group = true := by simp [gated, hgate, huncached hmay]
      rw [hgated]
      rfl
  | found n hstage' _ hn =>
      obtain ⟨c, hc, hqueue, hgroup⟩ := hread (.found n hstage' howner hn) (.inl rfl)
      have hopen := hu.unclosed hn hc
      have hgated : h.gated r.queue r.group = false := by simp [gated, Table.contains, hn]
      rw [hgated]
      exact listen_answer hu.listens (hc.trans (by rw [← hqueue, ← hgroup, ← hopen]))
  | opened i s hmay hgate hi ht hbrokers =>
      have hopened : Opens h.service.settings.brokers r.queue r.group h.site _ s := .opened i s hi ht hbrokers
      obtain ⟨hsession, hfeed⟩ := hopened.opened_session
      have hgated : h.gated r.queue r.group = false := by simp [gated, hgate]
      rw [hgated]
      exact (listen_answer hlistens hsession).trans (Backend.delivery_of_feed hfeed)
  | refused e s hmay hgate he ht =>
      have hgated : h.gated r.queue r.group = false := by simp [gated, hgate]
      rw [hgated, if_neg (by simp)]
      -- With no fault planned the transport refuses only a topic that is missing, as the delivery does.
      rw [hu.opens] at he
      rcases he with hstruck | hrefused
      · cases hstruck
      · cases hrefused with
        | unavailable hnone => exact absurd hnone hu.brokers
        | missing hi =>
            exact (Backend.delivery_of_missing hi _).symm

theorem Advances.over {answer : Received} {h' : Host} (ha : Advances ticket r h (.ready answer) h') :
    h'.service.receives.get? ticket = none := by
  have hlook {session : Nat} {h : Host} (hl : LooksNow ticket r session h (.ready answer) h') :
      h'.service.receives.get? ticket = none := by
    cases hl <;> exact Table.get?_erase_self _ _
  cases ha with
  | woken _ _ _ _ _ _ hl => exact hlook hl
  | served _ _ _ _ _ _ _ _ hl =>
      cases hl with
      | struck => exact Table.get?_erase_self _ _
      | looked _ _ _ hl => exact hlook hl
  | refused => exact Table.get?_erase_self _ _

theorem Advances.settings {answer : Poll Received} {h' : Host} (ha : Advances ticket r h answer h') :
    h'.service.settings = h.service.settings := by
  cases ha.turns with
  | stays _ hservice | leaves _ hservice | opens _ _ _ hservice => rw [hservice]

theorem start_over {queue group : String} {answer : Received}
    (hnone : h.service.receives.get? h.service.nextTicket = none)
    (hanswer : (start queue group h).1.2 = .ready answer) :
    (start queue group h).2.service.receives.get? h.service.nextTicket = none := by
  obtain ⟨e, h', he, hrun⟩ | ⟨h₁, -, hrun⟩ := start_cases queue group h
  · rw [hrun]
    cases he
    exact hnone
  · rw [hrun] at hanswer ⊢
    have ha := advance_advances h.service.nextTicket ⟨queue, group, .inLine⟩ h₁
    dsimp only at hanswer
    rw [hanswer] at ha
    exact ha.over

theorem Enters.settings {queue group : String} {a : Nat × Except ServiceError Receive} {h' : Host}
    (he : Enters queue group h a h') : h'.service.settings = h.service.settings := by
  cases he <;> rfl

theorem start_settings (queue group : String) (h : Host) :
    (start queue group h).2.service.settings = h.service.settings := by
  obtain ⟨e, h', he, hrun⟩ | ⟨h₁, he, hrun⟩ := start_cases queue group h
  · rw [hrun]
    exact he.settings
  · rw [hrun]
    exact (advance_advances _ _ h₁).settings.trans he.settings

theorem receive_settings (queue group : String) (h : Host) :
    (receive queue group h).2.service.settings = h.service.settings := by
  obtain hrun | hrun := receive_host queue group h
  · rw [hrun, start_settings]
  · rw [hrun, cancel_settings, start_settings]

def AllOpen (h : Host) : Prop := ∀ c ∈ h.site.backend.transport.sessions, c.closed = false

theorem step_settings (e : Event) (h : Host) : (step e h).2.service.settings = h.service.settings := by
  cases he : e.attends with
  | false =>
      obtain ⟨sessions, hservice⟩ := step_service he h
      rw [hservice]
  | true =>
      cases e with
      | start queue group => exact start_settings queue group h
      | poll ticket =>
          rw [step_poll]
          cases hr : h.service.receives.get? ticket with
          | none => rw [poll_none hr]
          | some r =>
              rw [poll_some hr]
              exact (advance_advances ticket r h).settings
      | cancel ticket =>
          exact cancel_settings ticket h
      | direct | condition => cases he
      | request q =>
          cases q with
          | receive queue group => exact receive_settings queue group h
          | _ => cases he

theorem steps_settings (es : List Event) (h : Host) :
    (steps es h).2.service.settings = h.service.settings :=
  steps_keep (P := fun k => k.service.settings = h.service.settings)
    (fun e k hk => (step_settings e k).trans hk) es rfl

/-- No receive is outstanding, every session is open, and nothing is to fail. -/
structure Idle (gone : String → Prop) (h : Host) : Prop where
  sound : h.Sound
  alone : ∀ ticket, h.service.receives.get? ticket = none
  allOpen : h.AllOpen
  calm : h.Calm gone
  brokers : h.service.settings.brokers ≠ []

def receiving (s : Site) (queue group : String) : Poll Received :=
  match s.obstacle? receiveOp queue group with
  | some e => .ready (.error e)
  | none => s.backend.delivery queue group

theorem checkReceive_run {s : Site} (hexists : s.struck .existTopic = none) (queue group : String) :
    ∃ t, s.Glance t ∧ (∀ c, c ≠ .existTopic → t.struck c = s.struck c) ∧ checkReceive queue group s =
      (match s.obstacle? receiveOp queue group with
        | some e => .error e
        | none => .ok (), t) := by
  obtain ⟨t, ht, hstruck, hrun⟩ := checks_run hexists receiveOp queue group Pure.pure
  refine ⟨t, ht, hstruck, ?_⟩
  have hchecks : checkReceive queue group = (do
      requireName "Queue" queue
      requireName "Group" group
      requireTopic .lenient receiveOp queue >>= Pure.pure) := by
    rw [bind_pure]
    rfl
  rw [hchecks, hrun]
  cases s.obstacle? receiveOp queue group <;> rfl

theorem checkReceive_calm (queue group : String) : Keeps (Site.Calm gone) (checkReceive queue group) :=
  .followed (requireName_calm _ _) fun _ => .followed (requireName_calm _ _) fun _ => requireTopic_calm _ _ _

theorem enter_calm (queue group : String) : Keeps (Calm gone) (enter queue group) := by
  intro h hcalm
  have hchecked := checkReceive_calm queue group h.site hcalm
  rw [enter_run]
  rcases hrun : checkReceive queue group h.site with ⟨e | ⟨⟩, t⟩ <;> rw [hrun] at hchecked <;> exact hchecked

theorem start_answer (hs : h.Sound) (hfree : h.service.lock.owner = none) {queue group : String}
    (hexists : h.site.struck .existTopic = none) (hu : h.Unhindered queue group) :
    (start queue group h).1.2 = match h.site.obstacle? receiveOp queue group with
      | some e => .ready (.error e)
      | none => if h.gated queue group then .pending else h.site.backend.delivery queue group := by
  obtain ⟨t, ht, hstruck, hrun⟩ := checkReceive_run hexists queue group
  have he := enter_enters queue group h
  rw [start_run]
  rw [enter_run, hrun] at he ⊢
  cases hobstacle : h.site.obstacle? receiveOp queue group with
  | some e => rfl
  | none =>
      rw [hobstacle] at he
      dsimp only at he ⊢
      rw [advance_answer (hs.enters he) he.outstanding ?_ he.atLock]
      · unfold gated
        rw [Backend.delivery_of_feed (ht.feed _ _), ht.gateShut]
      · simp [Lock.ask, hfree]
      · refine ⟨hu.brokers, (hstruck _ (by decide)).trans hu.opens, (hstruck _ (by decide)).trans hu.listens,
          fun hn hc => hu.unclosed hn ?_⟩
        rw [← ht.transport]
        exact hc

theorem start_calm (queue group : String) : Keeps (Calm gone) (start queue group) := by
  refine .bind (enter_calm queue group) fun entered => ?_
  split
  · exact .pure _
  · exact .bind (advance_calm _ _) fun _ => .pure _

theorem receive_calm (queue group : String) : Keeps (Calm gone) (receive queue group) := by
  intro h hcalm
  unfold Calm
  rw [receive_site]
  exact start_calm queue group h hcalm

namespace Idle

theorem unhindered (hi : h.Idle gone) (queue group : String) : h.Unhindered queue group where
  brokers := hi.brokers
  opens := hi.calm.struck _
  listens := hi.calm.struck _
  unclosed _ hc := hi.allOpen _ (List.mem_of_getElem? hc)

theorem start_answer (hi : h.Idle gone) (queue group : String) :
    (start queue group h).1.2 = receiving h.site queue group := by
  have hfree : h.service.lock = {} := hi.sound.lock_free_of_alone hi.alone
  have hgated : h.gated queue group = false := by simp [gated, hi.calm.gateShut]
  rw [Host.start_answer hi.sound (by rw [hfree]) (hi.calm.struck _) (hi.unhindered queue group), hgated]
  rfl

theorem receive_answer (hi : h.Idle gone) (queue group : String) :
    (receive queue group h).1 = receiving h.site queue group := by
  rw [Host.receive_answer, hi.start_answer]

theorem receive_alone (hi : h.Idle gone) (queue group : String) (j : Nat) :
    (receive queue group h).2.service.receives.get? j = none := by
  have hothers {j : Nat} (hj : j ≠ h.service.nextTicket) :
      (start queue group h).2.service.receives.get? j = none :=
    (start_others queue group hj).trans (hi.alone j)
  have hticket := start_ticket queue group h
  rw [receive_run]
  rcases hrun : start queue group h with ⟨⟨ticket, _ | answer⟩, h'⟩
  · rw [hrun] at hticket hothers
    dsimp only
    rw [cancel_outstanding]
    split
    · rfl
    · next hj => exact hothers fun hnext => hj (hnext.trans hticket.symm)
  · by_cases hj : j = h.service.nextTicket
    · rw [hj]
      have hover := start_over (hi.alone h.service.nextTicket) (congrArg (·.1.2) hrun)
      rw [hrun] at hover
      exact hover
    · rw [hrun] at hothers
      exact hothers hj

end Idle

end Host

end ManagedQueue
