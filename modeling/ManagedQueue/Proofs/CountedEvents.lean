import ManagedQueue.Proofs.Happenings

namespace ManagedQueue

structure Tally where
  direction : Direction
  queue : String
  group : String
  event : CountedEvent
deriving DecidableEq

def Metrics.recordAll (m : Metrics) (tallies : List Tally) : Metrics :=
  tallies.foldl (fun m t => m.record t.direction t.queue t.group t.event) m

theorem Metrics.recordAll_append (m : Metrics) (before after : List Tally) :
    m.recordAll (before ++ after) = (m.recordAll before).recordAll after :=
  List.foldl_append

namespace Site

variable {s t : Site}

theorem Looks.metrics {session : Nat} {answer : Except CollaboratorError (Option Payload)}
    (h : Looks session s answer t) : t.backend.metrics = s.backend.metrics := by
  cases h with
  | unknown | closed | missing => rfl
  | looked _ _ _ _ _ _ ht => exact ht.metrics

theorem Opens.metrics {addresses : List String} {queue group : String}
    {answer : Except CollaboratorError Nat} (h : Opens addresses queue group s answer t) :
    t.backend.metrics = s.backend.metrics := by
  cases h with
  | unavailable | missing => rfl
  | opened _ _ _ ht => exact ht.metrics

theorem produce_metrics (queue : String) (payload : Payload) (s : Site) :
    (produce queue payload s).2.backend.metrics = s.backend.metrics := by
  obtain ⟨-, hr⟩ | ⟨i, t, -, hr, ht⟩ := produce_cases queue payload s
  · rw [hr]
  · rw [hr]
    exact ht.metrics

theorem pending_metrics (queue group : String) (s : Site) :
    (pending queue group s).2.backend.metrics = s.backend.metrics := by
  obtain ⟨-, hr⟩ | ⟨i, t, -, hr, ht⟩ := pending_cases queue group s
  · rw [hr]
  · rw [hr]
    exact ht.metrics

theorem closeNow_metrics (session : Nat) (s : Site) :
    (Host.closeNow session s).2.backend.metrics = s.backend.metrics := by
  obtain ⟨e, -, hr⟩ | ⟨-, hr⟩ := closeNow_cases session s
  · rw [hr]
    rfl
  · rw [hr]
    rfl

theorem closeEach_metrics (entries : List (String × Nat)) (s : Site) :
    (Host.closeEach entries s).2.backend.metrics = s.backend.metrics := by
  induction entries generalizing s with
  | nil => rfl
  | cons entry rest ih => exact (ih _).trans (closeNow_metrics entry.2 s)

theorem registers_metrics {task : Task (Except CollaboratorError Unit)}
    {change : Registry → Except CollaboratorError Registry} (htask : Lifecycle.Registers task change)
    (s : Site) : (task s).2.backend.metrics = s.backend.metrics := by
  have ht := htask s
  rcases hr : task s with ⟨e | ⟨⟩, t⟩
  · rw [hr] at ht
    exact ht.2.metrics
  · rw [hr] at ht
    obtain ⟨r, -, ht⟩ := ht
    exact ht.metrics

theorem changeMetadata_metrics (change : Backend → Except CollaboratorError Metadata) (s : Site) :
    (changeMetadata change s).2.backend.metrics = s.backend.metrics := by
  rw [changeMetadata_run]
  cases change s.backend <;> rfl

end Site

namespace Host

variable {h h' : Host} {ticket : Nat} {r : Receive}

theorem create_metrics (settings : Settings) (queue : String) (s : Site) :
    (Lifecycle.create settings queue s).2.backend.metrics = s.backend.metrics := by
  have hc := Lifecycle.create_creates settings queue s
  generalize Lifecycle.create settings queue s = out at hc ⊢
  rcases out with ⟨answer, t⟩
  cases hc with
  | refused e _ hfirst => exact hfirst.glance.metrics
  | stranded m e t text _ _ _ ht => exact ht.metrics
  | created m r _ _ _ _ _ ht => exact ht.metrics

theorem delete_metrics (settings : Settings) (queue : String) (s : Site) :
    (Lifecycle.delete settings queue s).2.backend.metrics = s.backend.metrics := by
  have hd := Lifecycle.delete_deletes settings queue s
  generalize Lifecycle.delete settings queue s = out at hd ⊢
  rcases out with ⟨answer, t⟩
  cases hd with
  | refused e _ hfirst => exact hfirst.glance.metrics
  | stranded m e t text _ _ _ ht => exact ht.metrics
  | deleted m r _ _ _ _ _ ht => exact ht.metrics

theorem records_metrics {x : Operation Unit} {change : Backend → Except CollaboratorError Metadata}
    (hx : Operation.Records x change) (s : Site) : (x s).2.backend.metrics = s.backend.metrics := by
  have hs := hx s
  rcases hr : x s with ⟨e | ⟨⟩, t⟩
  · rw [hr] at hs
    exact hs.metrics
  · rw [hr] at hs
    obtain ⟨m, -, ht⟩ := hs
    exact ht.metrics

theorem Enters.metrics {queue group : String} {a : Nat × Except ServiceError Receive}
    (he : Enters queue group h a h') : h'.site.backend.metrics = h.site.backend.metrics := by
  cases he with
  | refused e s hs => exact hs.metrics
  | entered s _ _ hs => exact hs.metrics

theorem Acquires.metrics {a : Acquisition} (ha : Acquires ticket r h a h') :
    h'.site.backend.metrics = h.site.backend.metrics := by
  cases ha with
  | inLine | shut | found => rfl
  | refused _ s _ _ _ hs => exact hs.metrics
  | opened i s _ _ _ hs => exact hs.metrics

def counted (queue group : String) (now : Int64) : Poll Received → List Tally
  | .ready (.ok _) => [⟨.receive, queue, group, ⟨now, 1⟩⟩]
  | _ => []

/-- The clock stands still during a step, so it does not matter when in the step it is read. -/
theorem LooksNow.metrics {session : Nat} {answer : Poll Received}
    (hl : LooksNow ticket r session h answer h') : h'.site.backend.metrics =
      h.site.backend.metrics.recordAll (counted r.queue r.group h.site.backend.clock answer) := by
  cases hl with
  | failed e s hs => exact hs.metrics
  | quiet s hs => exact hs.metrics
  | received payload s t hs ht =>
      have hrecord : t.backend.metrics = s.backend.metrics.record .receive r.queue r.group
        ⟨s.backend.clock, 1⟩ := ht.metrics
      change t.backend.metrics = _
      rw [hrecord, hs.metrics, hs.traffic.clock]
      rfl

theorem Listens.metrics {session : Nat} {answer : Poll Received}
    (hl : Listens ticket r session h answer h') : h'.site.backend.metrics =
      h.site.backend.metrics.recordAll (counted r.queue r.group h.site.backend.clock answer) := by
  cases hl with
  | struck => rfl
  | looked _ _ _ hl => exact hl.metrics

theorem Advances.metrics {answer : Poll Received} (ha : Advances ticket r h answer h') :
    h'.site.backend.metrics =
      h.site.backend.metrics.recordAll (counted r.queue r.group h.site.backend.clock answer) := by
  cases ha with
  | idle => rfl
  | woken _ _ _ _ _ _ hl => exact hl.metrics
  | waits _ _ ha => exact ha.metrics
  | served _ _ h₁ _ _ _ ha _ hl => rw [hl.metrics, ha.metrics, ha.traffic.clock]
  | refused _ h₁ _ ha => exact ha.metrics

theorem start_metrics (queue group : String) (h : Host) :
    (start queue group h).2.site.backend.metrics = h.site.backend.metrics.recordAll
      (counted queue group h.site.backend.clock (start queue group h).1.2) := by
  obtain ⟨e, h', he, hrun⟩ | ⟨h₁, he, hrun⟩ := start_cases queue group h
  · rw [hrun]
    exact he.metrics
  · rw [hrun]
    have hadvance := (advance_advances h.service.nextTicket ⟨queue, group, .inLine⟩ h₁).metrics
    rw [he.metrics, he.traffic.clock] at hadvance
    exact hadvance

theorem receive_metrics (queue group : String) (h : Host) :
    (receive queue group h).2.site.backend.metrics = h.site.backend.metrics.recordAll
      (counted queue group h.site.backend.clock (receive queue group h).1) := by
  rw [receive_answer, receive_site]
  exact start_metrics queue group h

/-- What a step counts, read off its reply. -/
def tallies (e : Event) (h : Host) : List Tally :=
  match e, (step e h).1 with
  | .request (.send queue group _), .outcome (.ready (.ok _)) =>
    [⟨.send, queue, group, ⟨h.site.backend.clock, 1⟩⟩]
  | .request (.receive queue group), .outcome (.ready (.ok _)) =>
    [⟨.receive, queue, group, ⟨h.site.backend.clock, 1⟩⟩]
  | .start queue group, .started _ (.ready (.ok _)) =>
    [⟨.receive, queue, group, ⟨h.site.backend.clock, 1⟩⟩]
  | .poll ticket, .outcome (.ready (.ok _)) =>
    (h.service.receives.get? ticket).toList.map fun r =>
      ⟨.receive, r.queue, r.group, ⟨h.site.backend.clock, 1⟩⟩
  | .direct (.record direction queue group count), _ =>
    [⟨direction, queue, group, ⟨h.site.backend.clock, count⟩⟩]
  | _, _ => []

theorem tallies_start (queue group : String) (h : Host) : tallies (.start queue group) h =
    counted queue group h.site.backend.clock (start queue group h).1.2 := by
  have hstep : (step (.start queue group) h).1 =
      .started (start queue group h).1.1 (received (start queue group h).1.2) := rfl
  unfold tallies
  rw [hstep]
  rcases start queue group h with ⟨⟨ticket, _ | e | payload⟩, h'⟩ <;> rfl

theorem tallies_receive (queue group : String) (h : Host) :
    tallies (.request (.receive queue group)) h =
      counted queue group h.site.backend.clock (receive queue group h).1 := by
  have hstep : (step (.request (.receive queue group)) h).1 =
      .outcome ((receive queue group h).1.map (·.map .payload)) := rfl
  unfold tallies
  rw [hstep]
  rcases receive queue group h with ⟨_ | e | payload, h'⟩ <;> rfl

theorem tallies_poll (hr : h.service.receives.get? ticket = some r) : tallies (.poll ticket) h =
    counted r.queue r.group h.site.backend.clock (advance ticket r h).1 := by
  have hstep : (step (.poll ticket) h).1 = .outcome (received (advance ticket r h).1) := by
    rw [step_poll, poll_some hr]
  unfold tallies
  rw [hstep]
  rcases advance ticket r h with ⟨_ | e | payload, h'⟩
  · rfl
  · rfl
  · change (h.service.receives.get? ticket).toList.map _ = _
    rw [hr]
    rfl

theorem poll_metrics (ticket : Nat) (h : Host) : (step (.poll ticket) h).2.site.backend.metrics =
    h.site.backend.metrics.recordAll (tallies (.poll ticket) h) := by
  cases hr : h.service.receives.get? ticket with
  | none =>
      have hnone : tallies (.poll ticket) h = [] := by
        unfold tallies
        rw [step_poll, poll_none hr]
      rw [hnone, step_poll, poll_none hr]
      rfl
  | some r =>
      rw [tallies_poll hr, step_poll, poll_some hr]
      exact (advance_advances ticket r h).metrics

theorem send_metrics (queue group : String) (payload : Payload) (h : Host) :
    (step (.request (.send queue group payload)) h).2.site.backend.metrics =
      h.site.backend.metrics.recordAll (tallies (.request (.send queue group payload)) h) := by
  have hsend := send_sends queue group payload h.site
  have hstep : step (.request (.send queue group payload)) h =
      (.outcome (.ready ((send queue group payload h.site).1.map fun _ => .done)),
        ⟨(send queue group payload h.site).2, h.service⟩) := rfl
  unfold tallies
  rw [hstep]
  rcases hrun : send queue group payload h.site with ⟨answer, t⟩
  rw [hrun] at hsend
  cases hsend with
  | refused e _ ht => exact ht.metrics
  | sent i _ hi ht => exact ht.metrics

theorem closeSession_metrics (queue group : String) (h : Host) :
    (closeSession queue group h).2.site.backend.metrics = h.site.backend.metrics := by
  have hc := closeSession_closes queue group h
  generalize closeSession queue group h = out at hc ⊢
  rcases out with ⟨answer, h'⟩
  have hclosed (n : Nat) := Site.closeNow_metrics n h.site
  cases hc with
  | busy | absent => rfl
  | failed n e s _ _ hclose => simpa [hclose] using hclosed n
  | closed n s t _ _ hclose ht => exact ht.metrics.trans (by simpa [hclose] using hclosed n)

theorem shutdown_metrics (h : Host) :
    (shutdown h).2.site.backend.metrics = h.site.backend.metrics := by
  have hd := shutdown_shutsDown h
  generalize shutdown h = out at hd ⊢
  rcases out with ⟨answer, h'⟩
  cases hd with
  | busy => rfl
  | done answers s t _ hclose ht =>
      have hclosed := Site.closeEach_metrics h.service.sessions.entries h.site
      exact ht.metrics.trans (by simpa [hclose] using hclosed)

theorem perform_metrics (r : Request) (h : Host) : (step (.request r) h).2.site.backend.metrics =
    h.site.backend.metrics.recordAll (tallies (.request r) h) := by
  have hglance {α : Type} (x : Operation α) (hx : Operation.Glances x) :
      (x h.site).2.backend.metrics = h.site.backend.metrics := (hx h.site).metrics
  cases r with
  | createQueue queue => exact create_metrics h.service.settings queue h.site
  | deleteQueue queue => exact delete_metrics h.service.settings queue h.site
  | addGroup group queue access => exact records_metrics (Groups.add_records group queue access) h.site
  | updateGroup group queue access =>
      exact records_metrics (Groups.update_records group queue access) h.site
  | deleteGroup group queue => exact records_metrics (Groups.delete_records group queue) h.site
  | updateQueue queue => exact hglance _ (Lifecycle.update_glances queue)
  | lookupQueue queue group => exact hglance _ (Lifecycle.lookup_glances queue group)
  | lookupGroup group => exact hglance _ (Groups.lookup_glances group)
  | getGroup group queue => exact hglance _ (Groups.single_glances group queue)
  | send queue group payload => exact send_metrics queue group payload h
  | receive queue group =>
      rw [tallies_receive]
      exact receive_metrics queue group h
  | acknowledge => rfl
  | volume direction queue group window =>
      exact hglance _ (Volume.query_glances direction queue group window)
  | audit => exact hglance _ Lifecycle.audit_glances
  | sessionCount =>
      change (sessionCount h).2.site.backend.metrics = h.site.backend.metrics
      rw [sessionCount_host]
  | closeSession queue group => exact closeSession_metrics queue group h
  | shutdown => exact shutdown_metrics h

theorem direct_metrics (d : Direct) (h : Host) : (step (.direct d) h).2.site.backend.metrics =
    h.site.backend.metrics.recordAll (tallies (.direct d) h) := by
  cases d with
  | existTopic name force => exact (Site.existTopic_glance name force h.site).metrics
  | listTopics force => exact (Site.listTopics_glance force h.site).metrics
  | createTopic name layout =>
      exact Site.registers_metrics (Lifecycle.createTopic_registers name layout Site.directAddress) h.site
  | deleteTopic name =>
      exact Site.registers_metrics (Lifecycle.deleteTopic_registers name Site.directAddress) h.site
  | addQueue queue =>
      exact Site.changeMetadata_metrics (fun b => b.metadata.addQueue queue b.clock) h.site
  | deleteQueue queue => exact Site.changeMetadata_metrics (fun b => b.metadata.deleteQueue queue) h.site
  | addGroup record => exact Site.changeMetadata_metrics (fun b => b.metadata.addGroup record) h.site
  | updateGroup record =>
      exact Site.changeMetadata_metrics (fun b => b.metadata.updateGroup record) h.site
  | deleteGroup group queue =>
      exact Site.changeMetadata_metrics (fun b => b.metadata.deleteGroup group queue) h.site
  | produce queue payload => exact Site.produce_metrics queue payload h.site
  | pending queue group => exact Site.pending_metrics queue group h.site
  | openSession addresses queue group =>
      exact (Site.openSession_opens addresses queue group h.site).metrics
  | receive session => exact (Site.look_looks session h.site).metrics
  | query direction queue group window =>
      exact (Volume.siteQuery_glances direction queue group window h.site).metrics
  | topicInfo | existQueue | queueCreateTime | queueMap | groupMap | groupConfig | groupCount
  | sessionsOpened | close | record | total | snapshot => rfl

/-- The recorder holds what the steps count and nothing else. -/
theorem step_metrics (e : Event) (h : Host) : (step e h).2.site.backend.metrics =
    h.site.backend.metrics.recordAll (tallies e h) := by
  cases e with
  | request r => exact perform_metrics r h
  | start queue group =>
      rw [tallies_start]
      exact start_metrics queue group h
  | poll ticket => exact poll_metrics ticket h
  | cancel ticket =>
      change (cancel ticket h).2.site.backend.metrics = h.site.backend.metrics
      rw [cancel_site]
  | direct d => exact direct_metrics d h
  | condition c => cases c <;> rfl

theorem steps_metrics (es : List Event) (h : Host) : (steps es h).2.site.backend.metrics =
    h.site.backend.metrics.recordAll (chronicle tallies es h) := by
  induction es generalizing h with
  | nil => rfl
  | cons e es ih =>
      change (steps es (step e h).2).2.site.backend.metrics = _
      rw [ih, step_metrics, ← Metrics.recordAll_append]
      rfl

end Host

end ManagedQueue
