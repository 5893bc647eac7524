import ManagedQueue.Proofs.Evolution
import ManagedQueue.Proofs.SessionDeeds

namespace ManagedQueue

open Backend

namespace Site

variable {closes : Nat → Prop} {s t : Site}

theorem Glance.evolves (h : s.Glance t) {b : Backend} {D : List Happening}
    (hb : Evolves closes b D s.backend) : Evolves closes b D t.backend :=
  hb.followed h.topics h.nextIncarnation h.transport

/-- An open session is given the group's next message, if there is a topic. -/
theorem Looks.answer_eq {session : Nat} {answer : Except CollaboratorError (Option Payload)}
    (h : Looks session s answer t) {queue group : String}
    (hopen : s.backend.transport.sessions[session]? = some ⟨queue, group, false⟩) :
    answer = match s.backend.feed queue group with
      | none => .error (.missingTopic queue)
      | some (log, n) => .ok log[n]? := by
  cases h with
  | unknown hnone =>
      rw [hopen] at hnone
      cases hnone
  | closed c hc hclosed =>
      rw [hopen] at hc
      cases hc
      cases hclosed
  | missing c hc _ hi =>
      rw [hopen] at hc
      cases hc
      rw [Backend.feed, hi]
      rfl
  | looked c i _ hc _ hi =>
      rw [hopen] at hc
      cases hc
      rw [feed_of_bind hi, Transport.take_fst]

theorem Looks.succeeds {session : Nat} {answer : Except CollaboratorError (Option Payload)}
    (h : Looks session s answer t) {payload : Option Payload} (hok : answer = .ok payload)
    {queue group : String} (hreads : s.backend.transport.Reads session queue group) :
    ∃ i, s.backend.registry.incarnation? queue = some i ∧
      s.backend.transport.sessions[session]? = some ⟨queue, group, false⟩ ∧
      payload = ((s.backend.transport.bind queue i).take queue group).1 ∧
      (s.withTransport ((s.backend.transport.bind queue i).take queue group).2).Glance t := by
  cases h with
  | unknown | closed | missing => cases hok
  | looked c i _ hc hopen hi ht =>
      obtain ⟨d, hd, rfl, rfl⟩ := hreads
      rw [hc] at hd
      cases hd
      exact ⟨i, hi, by rw [← hopen]; exact hc, (Except.ok.inj hok).symm, ht⟩

def taken (queue group : String) : Except CollaboratorError (Option Payload) → List Happening
  | .ok (some payload) => [.received queue group payload]
  | _ => []

theorem Looks.evolves {session : Nat} {answer : Except CollaboratorError (Option Payload)}
    (h : Looks session s answer t) {queue group : String}
    (hreads : s.backend.transport.Reads session queue group) :
    Evolves closes s.backend (taken queue group answer) t.backend := by
  rcases answer with e | payload
  · cases h <;> exact .refl
  · obtain ⟨i, hi, -, hpayload, ht⟩ := h.succeeds rfl hreads
    have htake : Evolves closes s.backend _ _ := .single (.taken queue i group hi)
    rw [← hpayload] at htake
    apply ht.evolves (s := s.withTransport _)
    cases payload with
    | none => exact htake
    | some payload => exact htake

theorem Opens.evolves {addresses : List String} {queue group : String}
    {answer : Except CollaboratorError Nat} (h : Opens addresses queue group s answer t) :
    Evolves closes s.backend [] t.backend := by
  cases h with
  | unavailable | missing => exact .refl
  | opened i _ hi ht =>
      have hbound : Evolves closes s.backend [] _ := .single (.bound queue i hi)
      exact ht.evolves (hbound.tail (.opened queue group))

theorem Opens.opened_session {addresses : List String} {queue group : String} {n : Nat}
    (h : Opens addresses queue group s (.ok n) t) :
    t.backend.transport.sessions[n]? = some ⟨queue, group, false⟩ ∧
      t.backend.feed queue group = s.backend.feed queue group := by
  cases h with
  | opened i _ hi ht =>
      have hagrees : Transport.Agrees queue (s.backend.transport.bind queue i) t.backend.transport := by
        rw [ht.transport]
        exact ⟨rfl, rfl, rfl⟩
      have htopic : t.backend.registry.incarnation? queue = s.backend.registry.incarnation? queue :=
        ht.toTraffic.incarnation? queue
      refine ⟨?_, ?_⟩
      · rw [ht.transport]
        exact List.getElem?_concat_length
      · rw [← feed_bind hi queue group]
        exact feed_of_agrees (b := { s.backend with transport := s.backend.transport.bind queue i })
          htopic hagrees group

def told (x : Happening) : Except CollaboratorError Unit → List Happening
  | .ok () => [x]
  | .error _ => []

theorem produce_evolves (queue : String) (payload : Payload) (s : Site) :
    Evolves closes s.backend (told (.sent queue payload) (produce queue payload s).1)
      (produce queue payload s).2.backend := by
  obtain ⟨-, hr⟩ | ⟨i, t, hi, hr, ht⟩ := produce_cases queue payload s
  · rw [hr]
    exact .refl
  · rw [hr]
    exact ht.evolves (.single (.sent queue i payload hi))

theorem pending_evolves (queue group : String) (s : Site) :
    Evolves closes s.backend [] (pending queue group s).2.backend := by
  obtain ⟨-, hr⟩ | ⟨i, t, hi, hr, ht⟩ := pending_cases queue group s
  · rw [hr]
    exact .refl
  · rw [hr]
    exact ht.evolves (.single (.bound queue i hi))

theorem closeNow_evolves {session : Nat} {s : Site}
    (hcloses : (Host.closeNow session s).1 = .ok () → closes session) :
    Evolves closes s.backend [] (Host.closeNow session s).2.backend := by
  obtain ⟨e, -, hr⟩ | ⟨-, hr⟩ := closeNow_cases session s
  · rw [hr]
    exact .refl
  · rw [hr] at hcloses ⊢
    exact .single (.closed session (hcloses rfl))

theorem closeEach_evolves {entries : List (String × Nat)} {s : Site}
    (hcloses : ∀ n, (n, .ok ()) ∈ (entries.map (·.2)).zip ((Host.closeEach entries s).1.map (·.2)) →
      closes n) : Evolves closes s.backend [] (Host.closeEach entries s).2.backend := by
  induction entries generalizing s with
  | nil => exact .refl
  | cons entry rest ih =>
      have hanswers : (Host.closeEach (entry :: rest) s).1 = (entry.1, (Host.closeNow entry.2 s).1) ::
          (Host.closeEach rest (Host.closeNow entry.2 s).2).1 := rfl
      rw [hanswers] at hcloses
      have hfirst : Evolves closes s.backend [] (Host.closeNow entry.2 s).2.backend :=
        closeNow_evolves fun hok => hcloses entry.2 (List.mem_cons.mpr (.inl (by simp [hok])))
      exact hfirst.trans (ih fun n hn => hcloses n (List.mem_cons_of_mem _ hn))

theorem registers_evolves {task : Task (Except CollaboratorError Unit)}
    {change : Registry → Except CollaboratorError Registry} (htask : Lifecycle.Registers task change)
    {s : Site} {x : Happening} (hchange : ∀ {r}, change s.backend.registry = .ok r →
      Change closes s.backend [x] (s.withRegistry r).backend) :
    Evolves closes s.backend (told x (task s).1) (task s).2.backend := by
  have ht := htask s
  rcases hr : task s with ⟨e | ⟨⟩, t⟩
  · rw [hr] at ht
    exact ht.2.evolves .refl
  · rw [hr] at ht
    obtain ⟨r, hr, ht⟩ := ht
    exact ht.evolves (.single (hchange hr))

theorem withMetadata_evolves (m : Metadata) (s : Site) :
    Evolves closes s.backend [] (s.withMetadata m).backend := Evolves.refl.followed rfl rfl rfl

theorem changeMetadata_evolves (change : Backend → Except CollaboratorError Metadata) (s : Site) :
    Evolves closes s.backend [] (changeMetadata change s).2.backend := by
  rw [changeMetadata_run]
  cases change s.backend with
  | error => exact .refl
  | ok m => exact withMetadata_evolves m s

end Site

namespace Host

variable {closes : Nat → Prop} {h h' : Host} {ticket : Nat} {r : Receive}

def handed (queue group : String) : Poll Received → List Happening
  | .ready (.ok payload) => [.received queue group payload]
  | _ => []

theorem LooksNow.evolves {session : Nat} {answer : Poll Received}
    (hl : LooksNow ticket r session h answer h')
    (hreads : h.site.backend.transport.Reads session r.queue r.group) :
    Evolves closes h.site.backend (handed r.queue r.group answer) h'.site.backend := by
  cases hl with
  | failed e s hl => exact hl.evolves hreads
  | quiet s hl => exact hl.evolves hreads
  | received payload s t hl ht =>
      have hlook : Evolves closes h.site.backend _ s.backend := hl.evolves hreads
      exact ht.evolves (hlook.followed rfl rfl rfl)

theorem Listens.evolves {session : Nat} {answer : Poll Received}
    (hl : Listens ticket r session h answer h')
    (hreads : h.site.backend.transport.Reads session r.queue r.group) :
    Evolves closes h.site.backend (handed r.queue r.group answer) h'.site.backend := by
  cases hl with
  | struck => exact .refl
  | looked _ _ _ hl => exact hl.evolves hreads

theorem Acquires.evolves {a : Acquisition} (ha : Acquires ticket r h a h') :
    Evolves closes h.site.backend [] h'.site.backend := by
  cases ha with
  | inLine | shut | found => exact .refl
  | refused _ s _ _ _ ht => exact ht.evolves .refl
  | opened i s _ _ hi ht =>
      have hbound : Evolves closes h.site.backend [] _ := .single (.bound r.queue i hi)
      exact ht.evolves (hbound.tail (.opened r.queue r.group))

theorem Advances.evolves {answer : Poll Received} (ha : Advances ticket r h answer h') (hh : h.Sound)
    (hr : h.service.receives.get? ticket = some r) :
    Evolves closes h.site.backend (handed r.queue r.group answer) h'.site.backend := by
  cases ha with
  | idle => exact .refl
  | woken session wakeups _ _ hstage _ hl => exact hl.evolves (hh.waiting hr hstage)
  | waits _ _ ha => exact ha.evolves
  | served a n h₁ _ _ _ ha hn hl => exact ha.evolves.trans (hl.evolves (hh.acquires_reads hr ha hn))
  | refused e _ _ ha =>
      exact ha.evolves

theorem Enters.evolves {queue group : String} {a : Nat × Except ServiceError Receive}
    (he : Enters queue group h a h') : Evolves closes h.site.backend [] h'.site.backend := by
  cases he with
  | refused e s ht => exact ht.evolves .refl
  | entered s _ _ ht => exact ht.evolves .refl

theorem Enters.names {queue group : String} {h₁ : Host} (he : Enters queue group h (ticket, .ok r) h₁) :
    r.queue = queue ∧ r.group = group := by
  cases he
  exact ⟨rfl, rfl⟩

theorem start_evolves (hh : h.Sound) (queue group : String) :
    Evolves closes h.site.backend (handed queue group (start queue group h).1.2)
      (start queue group h).2.site.backend := by
  obtain ⟨e, h', he, hrun⟩ | ⟨h₁, he, hrun⟩ := start_cases queue group h
  · rw [hrun]
    exact he.evolves
  · rw [hrun]
    exact he.evolves.trans ((advance_advances _ _ h₁).evolves (hh.enters he) he.outstanding)

/-- What a step tells of its queues by its reply: topics made and deleted, and messages sent and
received, through the service or past it. -/
def happenings (e : Event) (h : Host) : List Happening :=
  match e, (step e h).1 with
  | .request (.createQueue queue), .outcome (.ready (.ok _)) => [.created queue]
  | .direct (.createTopic queue _), .datum (.ok _) => [.created queue]
  | .request (.deleteQueue queue), .outcome (.ready (.ok _)) => [.deleted queue]
  | .direct (.deleteTopic queue), .datum (.ok _) => [.deleted queue]
  | .request (.send queue _ payload), .outcome (.ready (.ok _)) => [.sent queue payload]
  | .direct (.produce queue payload), .datum (.ok _) => [.sent queue payload]
  | .request (.receive queue group), .outcome (.ready (.ok (.payload p))) => [.received queue group p]
  | .start queue group, .started _ (.ready (.ok (.payload p))) => [.received queue group p]
  | .poll ticket, .outcome (.ready (.ok (.payload p))) =>
    (h.service.receives.get? ticket).toList.map fun r => .received r.queue r.group p
  | .direct (.receive session), .datum (.ok (.payload (some p))) =>
    h.site.backend.transport.sessions[session]?.toList.map fun c => .received c.queue c.group p
  | _, _ => []

/-- The step closes this session, through the service or past it. -/
def closesIn (e : Event) (h : Host) (session : Nat) : Prop :=
  (session, .ok ()) ∈ closings e h ∨ e = .direct (.close session)

theorem happenings_start (queue group : String) (h : Host) :
    happenings (.start queue group) h = handed queue group (start queue group h).1.2 := by
  have hstep : (step (.start queue group) h).1 =
      .started (start queue group h).1.1 (received (start queue group h).1.2) := rfl
  unfold happenings
  rw [hstep]
  rcases start queue group h with ⟨⟨ticket, _ | e | payload⟩, h'⟩ <;> rfl

theorem happenings_receive (queue group : String) (h : Host) :
    happenings (.request (.receive queue group)) h = handed queue group (receive queue group h).1 := by
  have hstep : (step (.request (.receive queue group)) h).1 =
      .outcome ((receive queue group h).1.map (·.map .payload)) := rfl
  unfold happenings
  rw [hstep]
  rcases receive queue group h with ⟨_ | e | payload, h'⟩ <;> rfl

theorem happenings_poll {r : Receive} (hr : h.service.receives.get? ticket = some r) :
    happenings (.poll ticket) h = handed r.queue r.group (advance ticket r h).1 := by
  have hstep : (step (.poll ticket) h).1 = .outcome (received (advance ticket r h).1) := by
    rw [step_poll, poll_some hr]
  unfold happenings
  rw [hstep]
  rcases advance ticket r h with ⟨_ | e | payload, h'⟩
  · rfl
  · rfl
  · change (h.service.receives.get? ticket).toList.map _ = _
    rw [hr]
    rfl

theorem receive_evolves (hh : h.Sound) (queue group : String) :
    Evolves closes h.site.backend (handed queue group (receive queue group h).1)
      (receive queue group h).2.site.backend := by
  rw [receive_answer, receive_site]
  exact start_evolves hh queue group

theorem poll_evolves (hh : h.Sound) (ticket : Nat) :
    Evolves closes h.site.backend (happenings (.poll ticket) h) (step (.poll ticket) h).2.site.backend := by
  cases hr : h.service.receives.get? ticket with
  | none =>
      have hnone : happenings (.poll ticket) h = [] := by
        unfold happenings
        rw [step_poll, poll_none hr]
      rw [hnone, step_poll, poll_none hr]
      exact .refl
  | some r =>
      rw [happenings_poll hr, step_poll, poll_some hr]
      exact (advance_advances ticket r h).evolves hh hr

theorem create_evolves (queue : String) (h : Host) :
    Evolves closes h.site.backend (happenings (.request (.createQueue queue)) h)
      (step (.request (.createQueue queue)) h).2.site.backend := by
  have hc := Lifecycle.create_creates h.service.settings queue h.site
  unfold happenings
  rw [step_create]
  rcases hrun : Lifecycle.create h.service.settings queue h.site with ⟨answer, t⟩
  rw [hrun] at hc
  have hmetadata (m : Metadata) : Evolves closes h.site.backend [] _ :=
    Site.withMetadata_evolves m h.site
  cases hc with
  | refused e _ hfirst => exact hfirst.glance.evolves .refl
  | stranded m e t text _ _ _ ht =>
      exact ht.evolves (hmetadata m)
  | created m r _ _ _ _ hr ht => exact ht.evolves ((hmetadata m).tail (.created queue _ r hr))

theorem delete_evolves (queue : String) (h : Host) :
    Evolves closes h.site.backend (happenings (.request (.deleteQueue queue)) h)
      (step (.request (.deleteQueue queue)) h).2.site.backend := by
  have hd := Lifecycle.delete_deletes h.service.settings queue h.site
  unfold happenings
  rw [step_delete]
  rcases hrun : Lifecycle.delete h.service.settings queue h.site with ⟨answer, t⟩
  rw [hrun] at hd
  have hmetadata (m : Metadata) : Evolves closes h.site.backend [] _ :=
    Site.withMetadata_evolves m h.site
  cases hd with
  | refused e _ hfirst => exact hfirst.glance.evolves .refl
  | stranded m e t text _ _ _ ht =>
      exact ht.evolves (hmetadata m)
  | deleted m r _ _ _ _ hr ht => exact ht.evolves ((hmetadata m).tail (.deleted queue r hr))

theorem records_evolves {x : Operation Unit} {change : Backend → Except CollaboratorError Metadata}
    (hx : Operation.Records x change) (s : Site) : Evolves closes s.backend [] (x s).2.backend := by
  have hrun := hx s
  rcases hr : x s with ⟨e | ⟨⟩, t⟩
  · rw [hr] at hrun
    exact hrun.evolves .refl
  · rw [hr] at hrun
    obtain ⟨m, -, ht⟩ := hrun
    exact ht.evolves (Site.withMetadata_evolves m s)

theorem send_evolves (queue group : String) (payload : Payload) (h : Host) :
    Evolves closes h.site.backend (happenings (.request (.send queue group payload)) h)
      (step (.request (.send queue group payload)) h).2.site.backend := by
  have hsend := send_sends queue group payload h.site
  have hstep : step (.request (.send queue group payload)) h =
      (.outcome (.ready ((send queue group payload h.site).1.map fun _ => .done)),
        ⟨(send queue group payload h.site).2, h.service⟩) := rfl
  unfold happenings
  rw [hstep]
  rcases hrun : send queue group payload h.site with ⟨answer, t⟩
  rw [hrun] at hsend
  cases hsend with
  | refused e _ ht => exact ht.evolves .refl
  | sent i _ hi ht =>
      have hsent : Evolves closes h.site.backend _ _ := .single (.sent queue i payload hi)
      exact ht.evolves (hsent.followed rfl rfl rfl)

theorem closeSession_evolves (queue group : String) (h : Host) :
    Evolves (closesIn (.request (.closeSession queue group)) h) h.site.backend []
      (closeSession queue group h).2.site.backend := by
  have hc := closeSession_closes queue group h
  generalize closeSession queue group h = out at hc ⊢
  rcases out with ⟨answer, h'⟩
  have hclosed {n : Nat} (hfree : h.service.lock.owner = none)
      (hn : h.service.sessions.get? (sessionKey queue group) = some n) :
      Evolves (closesIn (.request (.closeSession queue group)) h) h.site.backend []
        (closeNow n h.site).2.backend := by
    apply Site.closeNow_evolves
    intro hok
    simp [closesIn, closings, hfree, hn, hok]
  cases hc with
  | busy | absent => exact .refl
  | failed n e s hfree hn hclose => simpa [hclose] using hclosed hfree hn
  | closed n s t hfree hn hclose ht => exact ht.evolves (by simpa [hclose] using hclosed hfree hn)

theorem shutdown_evolves (h : Host) :
    Evolves (closesIn (.request .shutdown) h) h.site.backend [] (shutdown h).2.site.backend := by
  have hd := shutdown_shutsDown h
  generalize shutdown h = out at hd ⊢
  rcases out with ⟨answer, h'⟩
  cases hd with
  | busy => exact .refl
  | done answers s t hfree hclose ht =>
      have hclosed : Evolves (closesIn (.request .shutdown) h) h.site.backend []
          (closeEach h.service.sessions.entries h.site).2.backend := by
        apply Site.closeEach_evolves
        intro n hn
        left
        simpa [closings, hfree] using hn
      exact ht.evolves (by simpa [hclose] using hclosed)

theorem perform_evolves (hh : h.Sound) (r : Request) :
    Evolves (closesIn (.request r) h) h.site.backend (happenings (.request r) h)
      (step (.request r) h).2.site.backend := by
  have hglance {α : Type} (x : Operation α) (hx : Operation.Glances x) :
      Evolves (closesIn (.request r) h) h.site.backend [] (x h.site).2.backend :=
    (hx h.site).evolves .refl
  cases r with
  | createQueue queue => exact create_evolves queue h
  | deleteQueue queue => exact delete_evolves queue h
  | addGroup group queue access => exact records_evolves (Groups.add_records group queue access) h.site
  | updateGroup group queue access =>
      exact records_evolves (Groups.update_records group queue access) h.site
  | deleteGroup group queue => exact records_evolves (Groups.delete_records group queue) h.site
  | updateQueue queue => exact hglance _ (Lifecycle.update_glances queue)
  | lookupQueue queue group => exact hglance _ (Lifecycle.lookup_glances queue group)
  | lookupGroup group => exact hglance _ (Groups.lookup_glances group)
  | getGroup group queue => exact hglance _ (Groups.single_glances group queue)
  | send queue group payload => exact send_evolves queue group payload h
  | receive queue group =>
      rw [happenings_receive]
      exact receive_evolves hh queue group
  | acknowledge => exact .refl
  | volume direction queue group window =>
      exact hglance _ (Volume.query_glances direction queue group window)
  | audit => exact hglance _ Lifecycle.audit_glances
  | sessionCount =>
      change Evolves _ h.site.backend [] (sessionCount h).2.site.backend
      rw [sessionCount_host]
      exact .refl
  | closeSession queue group => exact closeSession_evolves queue group h
  | shutdown => exact shutdown_evolves h

theorem direct_look_evolves (session : Nat) (h : Host) :
    Evolves closes h.site.backend (happenings (.direct (.receive session)) h)
      (step (.direct (.receive session)) h).2.site.backend := by
  have hl := Site.look_looks session h.site
  have hstep : step (.direct (.receive session)) h =
      (.datum ((Site.look session h.site).1.map .payload), ⟨(Site.look session h.site).2, h.service⟩) := rfl
  have hreads (c : Session) (hc : h.site.backend.transport.sessions[session]? = some c) :
      happenings (.direct (.receive session)) h = Site.taken c.queue c.group (Site.look session h.site).1 := by
    unfold happenings
    rw [hstep]
    rcases Site.look session h.site with ⟨e | _ | payload, t⟩
    · rfl
    · rfl
    · change (h.site.backend.transport.sessions[session]?).toList.map _ = _
      rw [hc]
      rfl
  cases hc : h.site.backend.transport.sessions[session]? with
  | some c =>
      rw [hreads c hc]
      exact hl.evolves ⟨c, hc, rfl, rfl⟩
  | none =>
      unfold happenings
      rw [hstep]
      rcases hrun : Site.look session h.site with ⟨answer, t⟩
      rw [hrun] at hl
      cases hl with
      | unknown => exact .refl
      | closed _ hfound | missing _ hfound | looked _ _ _ hfound =>
          rw [hc] at hfound
          cases hfound

theorem direct_told_evolves {d : Direct} {x : Happening} {task : Task (Except CollaboratorError Unit)}
    (hstep : step (.direct d) h =
      (.datum ((task h.site).1.map fun _ => .done), ⟨(task h.site).2, h.service⟩))
    (hok : (step (.direct d) h).1 = .datum (.ok .done) → happenings (.direct d) h = [x])
    (herror : ∀ e, (step (.direct d) h).1 = .datum (.error e) → happenings (.direct d) h = [])
    (ht : Evolves closes h.site.backend (Site.told x (task h.site).1) (task h.site).2.backend) :
    Evolves closes h.site.backend (happenings (.direct d) h) (step (.direct d) h).2.site.backend := by
  rw [hstep] at hok herror ⊢
  rcases hr : task h.site with ⟨e | ⟨⟩, t⟩
  · rw [hr] at herror ht
    rw [herror e rfl]
    exact ht
  · rw [hr] at hok ht
    rw [hok rfl]
    exact ht

theorem direct_evolves (d : Direct) (h : Host) :
    Evolves (closesIn (.direct d) h) h.site.backend (happenings (.direct d) h)
      (step (.direct d) h).2.site.backend := by
  cases d with
  | existTopic name force => exact (Site.existTopic_glance name force h.site).evolves .refl
  | listTopics force => exact (Site.listTopics_glance force h.site).evolves .refl
  | createTopic name layout =>
      exact direct_told_evolves rfl (fun hd => by simp [happenings, hd])
        (fun e hd => by simp [happenings, hd])
        (Site.registers_evolves (Lifecycle.createTopic_registers name layout Site.directAddress)
          fun hr => .created name layout _ hr)
  | deleteTopic name =>
      exact direct_told_evolves rfl (fun hd => by simp [happenings, hd])
        (fun e hd => by simp [happenings, hd])
        (Site.registers_evolves (Lifecycle.deleteTopic_registers name Site.directAddress)
          fun hr => .deleted name _ hr)
  | produce queue payload =>
      exact direct_told_evolves rfl (fun hd => by simp [happenings, hd])
        (fun e hd => by simp [happenings, hd]) (Site.produce_evolves queue payload h.site)
  | receive session => exact direct_look_evolves session h
  | addQueue queue => exact Site.changeMetadata_evolves (fun b => b.metadata.addQueue queue b.clock) h.site
  | deleteQueue queue => exact Site.changeMetadata_evolves (fun b => b.metadata.deleteQueue queue) h.site
  | addGroup record => exact Site.changeMetadata_evolves (fun b => b.metadata.addGroup record) h.site
  | updateGroup record => exact Site.changeMetadata_evolves (fun b => b.metadata.updateGroup record) h.site
  | deleteGroup group queue =>
      exact Site.changeMetadata_evolves (fun b => b.metadata.deleteGroup group queue) h.site
  | pending queue group => exact Site.pending_evolves queue group h.site
  | openSession addresses queue group =>
      exact (Site.openSession_opens addresses queue group h.site).evolves
  | close session => exact .single (.closed session (.inr rfl))
  | query direction queue group window =>
      exact (Volume.siteQuery_glances direction queue group window h.site).evolves .refl
  | record => exact Evolves.refl.followed rfl rfl rfl
  | topicInfo | existQueue | queueCreateTime | queueMap | groupMap | groupConfig | groupCount
  | sessionsOpened | total | snapshot => exact .refl

theorem step_evolves (hh : h.Sound) (e : Event) :
    Evolves (closesIn e h) h.site.backend (happenings e h) (step e h).2.site.backend := by
  cases e with
  | request r => exact perform_evolves hh r
  | start queue group =>
      rw [happenings_start]
      exact start_evolves hh queue group
  | poll ticket => exact poll_evolves hh ticket
  | cancel ticket =>
      change Evolves _ h.site.backend [] (cancel ticket h).2.site.backend
      rw [cancel_site]
      exact .refl
  | direct d => exact direct_evolves d h
  | condition c => cases c <;> exact Evolves.refl.followed rfl rfl rfl

end Host

end ManagedQueue
