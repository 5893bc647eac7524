import ManagedQueue.Proofs.IdleHosts
import ManagedQueue.Proofs.LiveSessions

namespace ManagedQueue

namespace Host

open Site

variable {h h' : Host} {ticket session : Nat} {r : Receive} {answer : Poll Received} {queue group : String}

/-- Past the service no session is closed that the service has opened: it hands none of them out. -/
def SparesSessions (es : List Event) (start : Host) : Prop :=
  ∀ session, .direct (.close session) ∈ es →
    ∀ queue group, .opened queue group session ∉ chronicle deeds es start

/-- The service closes a session only when it takes it out of the table. -/
theorem cached_unclosed {settings : Settings} {site : Site} {es : List Event}
    (hnew : site.backend.transport.sessions = []) (hspares : SparesSessions es ⟨site, { settings }⟩)
    {key : String} (hn : (steps es ⟨site, { settings }⟩).2.service.sessions.get? key = some session) :
    ¬ (steps es ⟨site, { settings }⟩).2.Closed session := by
  obtain ⟨⟨queue, group, hopened⟩, hunclosed⟩ := (Accounts.chronicle settings site es).cached hn
  intro hclosed
  rcases steps_closed (.start site settings) es hclosed with ⟨c, hc, -⟩ | hclosing | hdirect
  · rw [hnew] at hc
    cases hc
  · exact hunclosed _ hclosing
  · exact hspares session hdirect queue group hopened

section Missing

theorem LooksNow.glance (hl : LooksNow ticket r session h answer h')
    (hreads : h.site.backend.transport.Reads session r.queue r.group)
    (hnone : h.site.backend.registry.incarnation? r.queue = none) : h.site.Glance h'.site := by
  have hnothing {payload : Option Payload} {s : Site} (hs : Looks session h.site (.ok payload) s) : False := by
    obtain ⟨i, hi, -⟩ := hs.succeeds rfl hreads
    rw [hnone] at hi
    cases hi
  cases hl with
  | failed e s hs => cases hs <;> exact .refl _
  | quiet s hs => exact (hnothing hs).elim
  | received payload s t hs => exact (hnothing hs).elim

theorem Listens.glance (hl : Listens ticket r session h answer h')
    (hreads : h.site.backend.transport.Reads session r.queue r.group)
    (hnone : h.site.backend.registry.incarnation? r.queue = none) : h.site.Glance h'.site := by
  cases hl with
  | struck => exact .counted _ _
  | looked _ _ _ hl => exact (Glance.counted _ .receive).trans (hl.glance hreads hnone)

theorem Acquires.glance {a : Acquisition} (ha : Acquires ticket r h a h')
    (hnone : h.site.backend.registry.incarnation? r.queue = none) :
    h.site.Glance h'.site ∧ h'.service.sessions = h.service.sessions := by
  cases ha with
  | inLine | shut | found => exact ⟨.refl _, rfl⟩
  | refused e s _ _ _ hs => exact ⟨hs, rfl⟩
  | opened i s _ _ hi =>
      rw [hnone] at hi
      cases hi

theorem Advances.glance (ha : Advances ticket r h answer h') (hs : h.Sound)
    (hr : h.service.receives.get? ticket = some r)
    (hnone : h.site.backend.registry.incarnation? r.queue = none) :
    h.site.Glance h'.site ∧ h'.service.sessions = h.service.sessions := by
  cases ha with
  | idle => exact ⟨.refl _, rfl⟩
  | woken n w _ _ hstage _ hl =>
      obtain ⟨receives, hservice, -⟩ := hl.settles
      exact ⟨hl.glance (hs.waiting hr hstage) hnone, by rw [hservice]⟩
  | waits _ _ ha => exact ha.glance hnone
  | served a n h₁ _ _ _ ha hn hl =>
      obtain ⟨receives, hservice, -⟩ := hl.settles
      obtain ⟨hsite, hsessions⟩ := ha.glance hnone
      have hlistens := hl.glance (hs.acquires_reads hr ha hn) ((hsite.incarnation? _).trans hnone)
      exact ⟨hsite.trans hlistens, by rw [hservice, ← hsessions]⟩
  | refused e _ _ ha => exact ha.glance hnone

theorem start_glance (hs : h.Sound) (hnone : h.site.backend.registry.incarnation? queue = none)
    (group : String) : h.site.Glance (start queue group h).2.site ∧
      (start queue group h).2.service.sessions = h.service.sessions := by
  obtain ⟨e, h', he, hrun⟩ | ⟨h₁, he, hrun⟩ := start_cases queue group h
  · rw [hrun]
    exact ⟨he.glance, he.sessions⟩
  · rw [hrun]
    obtain ⟨hsite, hsessions⟩ := (advance_advances _ _ h₁).glance (hs.enters he) he.outstanding
      ((he.glance.incarnation? _).trans hnone)
    exact ⟨he.glance.trans hsite, hsessions.trans he.sessions⟩

theorem receive_glance (hs : h.Sound) (hnone : h.site.backend.registry.incarnation? queue = none)
    (group : String) : h.site.Glance (receive queue group h).2.site ∧
      (receive queue group h).2.service.sessions = h.service.sessions := by
  rw [receive_site, receive_sessions]
  exact start_glance hs hnone group

theorem send_glance {s : Site} (hnone : s.backend.registry.incarnation? queue = none) (group : String)
    (payload : Payload) : s.Glance (send queue group payload s).2 := by
  have hsends := send_sends queue group payload s
  generalize send queue group payload s = out at hsends ⊢
  rcases out with ⟨answer, t⟩
  cases hsends with
  | refused _ _ ht => exact ht
  | sent i _ hi =>
      rw [hnone] at hi
      cases hi

end Missing

/-- What topics, records, messages and metrics are is the same, and so are the sessions of the service
and what each group has not yet received. -/
structure Unaffected (h h' : Host) : Prop where
  topics : h'.site.backend.registry.topics = h.site.backend.registry.topics
  metadata : h'.site.backend.metadata = h.site.backend.metadata
  transport : h'.site.backend.transport = h.site.backend.transport
  metrics : h'.site.backend.metrics = h.site.backend.metrics
  sessions : h'.service.sessions = h.service.sessions
  pending : ∀ queue group, (Site.pending queue group h'.site).1 = (Site.pending queue group h.site).1

theorem Unaffected.of_glance (hsite : h.site.Glance h'.site)
    (hsessions : h'.service.sessions = h.service.sessions) : h.Unaffected h' where
  topics := hsite.topics
  metadata := hsite.metadata
  transport := hsite.transport
  metrics := hsite.metrics
  sessions := hsessions
  pending queue group := by
    rw [pending_undelivered, pending_undelivered, Backend.undelivered, Backend.undelivered, hsite.feed]

/-- A name that the registry still lists is only refused by the transport. -/
def refusal (s : Site) (op queue group : String) : ServiceError :=
  if s.backend.registry.cached.contains queue then
    .collaborator op queue (some group) (.missingTopic queue)
  else .notFound op queue none

theorem sending_of_missing {s : Site} (hqueue : nameFault? queue = none) (hgroup : nameFault? group = none)
    (hmissing : s.backend.registry.topics.contains queue = false) :
    sending s queue group = .error (refusal s "SendMessage" queue group) := by
  unfold sending refusal
  rw [obstacle_of_named hqueue hgroup, Registry.knows, hmissing, Bool.or_false]
  cases s.backend.registry.cached.contains queue <;> rfl

theorem sending_of_live {s : Site} (hqueue : nameFault? queue = none) (hgroup : nameFault? group = none)
    (hlive : s.backend.registry.topics.contains queue = true) : sending s queue group = .ok () := by
  unfold sending
  rw [obstacle_of_named hqueue hgroup, Registry.knows, hlive, Bool.or_true]
  rfl

theorem start_of_missing (hs : h.Sound) (hfree : h.service.lock.owner = none)
    (hexists : h.site.struck .existTopic = none) (hu : h.Unhindered queue group)
    (hqueue : nameFault? queue = none) (hgroup : nameFault? group = none)
    (hmissing : h.site.backend.registry.topics.contains queue = false) (hgate : h.gated queue group = false) :
    (start queue group h).1.2 = .ready (.error (refusal h.site receiveOp queue group)) := by
  have hnone := Registry.incarnation_of_missing hmissing
  rw [start_answer hs hfree hexists hu, obstacle_of_named hqueue hgroup, Registry.knows, hmissing,
    Bool.or_false, hgate, Backend.delivery_of_missing hnone]
  unfold refusal
  cases h.site.backend.registry.cached.contains queue <;> rfl

theorem start_of_live (hs : h.Sound) (hfree : h.service.lock.owner = none)
    (hexists : h.site.struck .existTopic = none) (hu : h.Unhindered queue group)
    (hqueue : nameFault? queue = none) (hgroup : nameFault? group = none)
    (hlive : h.site.backend.registry.topics.contains queue = true) (e : ServiceError) :
    (start queue group h).1.2 ≠ .ready (.error e) := by
  rw [start_answer hs hfree hexists hu, obstacle_of_named hqueue hgroup, Registry.knows, hlive, Bool.or_true,
    if_pos rfl]
  dsimp only
  split
  · simp
  · exact Backend.delivery_of_live hlive group e

theorem reply_send (hstruck : ∀ c, h.site.struck c = none) (queue group : String) (payload : Payload) :
    (step (.request (.send queue group payload)) h).1 =
      .outcome (.ready ((sending h.site queue group).map fun _ => .done)) := by
  change Reply.outcome (.ready ((send queue group payload h.site).1.map fun _ => Answer.done)) = _
  rw [send_answer (hstruck _) (hstruck _)]

theorem reply_receive (queue group : String) (h : Host) :
    (step (.request (.receive queue group)) h).1 = .outcome (received (start queue group h).1.2) := by
  rw [step_receive, receive_answer]

theorem reply_start (queue group : String) (h : Host) :
    (step (.start queue group) h).1 = .started h.service.nextTicket (received (start queue group h).1.2) := by
  rw [step_start, start_ticket]

theorem received_ne_error (hserved : ∀ e, answer ≠ .ready (.error e)) (e : ServiceError) :
    received answer ≠ .ready (.error e) := by
  rcases answer with _ | e' | payload
  · simp [received, Poll.map]
  · exact absurd rfl (hserved e')
  · simp [received, Poll.map, Except.map]

/-- In every run from any saved state, with topics made and deleted past the service: while nothing is to
fail and the lock is free, a message for a queue without a topic is refused, and so is a receive, unless
its session has to wait at the gate. The error tells whether the registry still lists the name. Nothing
is affected in any case. Where there is a topic neither fails, whatever the registry lists and whatever
sessions there are. -/
theorem stale_cache_harmless (settings : Settings) (s : Snapshot) (clock : Int64) (site : Site)
    (es : List Event) :
    let start : Host := ⟨{ site with backend := s.restore clock }, { settings }⟩
    let h := (steps es start).2
    settings.brokers ≠ [] → SparesSessions es start → (∀ c, h.site.struck c = none) →
    h.service.lock.owner = none →
    ∀ queue group, nameFault? queue = none → nameFault? group = none →
      (h.site.backend.registry.topics.contains queue = false →
        (∀ payload,
          (step (.request (.send queue group payload)) h).1 =
            .outcome (.ready (.error (refusal h.site "SendMessage" queue group))) ∧
          h.Unaffected (step (.request (.send queue group payload)) h).2) ∧
        ((h.gated queue group = false → (step (.request (.receive queue group)) h).1 =
            .outcome (.ready (.error (refusal h.site "ReceiveMessage" queue group)))) ∧
          h.Unaffected (step (.request (.receive queue group)) h).2) ∧
        (h.gated queue group = false → (step (.start queue group) h).1 = .started h.service.nextTicket
            (.ready (.error (refusal h.site "ReceiveMessage" queue group)))) ∧
          h.Unaffected (step (.start queue group) h).2) ∧
      (h.site.backend.registry.topics.contains queue = true →
        (∀ payload, (step (.request (.send queue group payload)) h).1 = .outcome (.ready (.ok .done))) ∧
        (∀ e, (step (.request (.receive queue group)) h).1 ≠ .outcome (.ready (.error e))) ∧
        ∀ ticket e, (step (.start queue group) h).1 ≠ .started ticket (.ready (.error e))) := by
  intro start h hbrokers hspares hstruck hfree queue group hqueue hgroup
  have hs : h.Sound := steps_sound settings _ es
  have hu : h.Unhindered queue group := by
    refine ⟨?_, hstruck _, hstruck _, fun {n c} hn hc => ?_⟩
    · rw [show h.service.settings = settings from steps_settings es start]
      exact hbrokers
    · have hunclosed : ¬ h.Closed n := cached_unclosed rfl hspares hn
      exact Bool.eq_false_iff.mpr fun hclosed => hunclosed ⟨c, hc, hclosed⟩
  refine ⟨fun hmissing => ?_, fun hlive => ?_⟩
  · have hnone := Registry.incarnation_of_missing hmissing
    have hrefused := start_of_missing hs hfree (hstruck _) hu hqueue hgroup hmissing
    obtain ⟨hsite, hsessions⟩ := start_glance hs hnone group
    obtain ⟨hsite', hsessions'⟩ := receive_glance hs hnone group
    refine ⟨fun payload => ⟨?_, .of_glance (send_glance hnone group payload) rfl⟩,
      ⟨fun hgate => ?_, .of_glance hsite' hsessions'⟩, fun hgate => ?_, .of_glance hsite hsessions⟩
    · rw [reply_send hstruck, sending_of_missing hqueue hgroup hmissing]
      rfl
    · rw [reply_receive, hrefused hgate]
      rfl
    · rw [reply_start, hrefused hgate]
      rfl
  · have hserved := start_of_live hs hfree (hstruck _) hu hqueue hgroup hlive
    refine ⟨fun payload => ?_, fun e => ?_, fun ticket e => ?_⟩
    · rw [reply_send hstruck, sending_of_live hqueue hgroup hlive]
      rfl
    · rw [reply_receive]
      simpa using received_ne_error hserved e
    · rw [reply_start]
      intro hreply
      injection hreply with _ hreply
      exact received_ne_error hserved e hreply

/-- The topic was deleted past the service, which still lists the name and has a session. -/
theorem stale_cache_after_deletion :
    let es : List Event := [.request (.createQueue "q"), .request (.receive "q" "g"),
      .direct (.deleteTopic "q")]
    let h := (steps es ⟨{}, { settings := ⟨["b"], "zk", 4, 2⟩ }⟩).2
    (step (.request (.send "q" "g" [1])) h).1 = .outcome (.ready (.error
      (.collaborator "SendMessage" "q" (some "g") (.missingTopic "q")))) ∧
    (step (.request (.receive "q" "g")) h).1 = .outcome (.ready (.error
      (.collaborator "ReceiveMessage" "q" (some "g") (.missingTopic "q")))) := by
  intro es h
  have hstruck : ∀ c, h.site.struck c = none := fun c => by cases c <;> rfl
  have hspares : SparesSessions es ⟨{}, { settings := ⟨["b"], "zk", 4, 2⟩ }⟩ :=
    fun session hclose => by simp [es] at hclose
  obtain ⟨hmissing, -⟩ := stale_cache_harmless ⟨["b"], "zk", 4, 2⟩ {} 0 {} es (by simp) hspares hstruck
    (by decide +kernel) "q" "g" (by decide +kernel) (by decide +kernel)
  obtain ⟨hsend, ⟨hreceive, -⟩, -⟩ := hmissing (by decide +kernel)
  have hlisted (op : String) : refusal h.site op "q" "g" = .collaborator op "q" (some "g") (.missingTopic "q") :=
    if_pos (by decide +kernel)
  have hreply {op : String} : Reply.outcome (.ready (.error (refusal h.site op "q" "g"))) =
      .outcome (.ready (.error (.collaborator op "q" (some "g") (.missingTopic "q")))) := by
    rw [hlisted]
  exact ⟨(hsend [1]).1.trans hreply, (hreceive (by decide +kernel)).trans hreply⟩

end Host

end ManagedQueue
