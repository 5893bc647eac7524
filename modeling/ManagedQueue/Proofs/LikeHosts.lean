import ManagedQueue.Proofs.IdleHosts
import ManagedQueue.Proofs.SavedFeed

namespace ManagedQueue

def Request.commanded : Request → Bool
  | .sessionCount | .closeSession _ _ | .shutdown => false
  | _ => true

def Request.tells : Request → Outcome → List Happening
  | .createQueue queue, .ready (.ok _) => [.created queue]
  | .deleteQueue queue, .ready (.ok _) => [.deleted queue]
  | .send queue _ payload, .ready (.ok _) => [.sent queue payload]
  | .receive queue group, .ready (.ok (.payload p)) => [.received queue group p]
  | _, _ => []

/-- The answers of a host that has been up for long and of one that has just begun. -/
inductive Agree (gone : String → Prop) : Request → Outcome → Outcome → Prop
  | same (r answer) : Agree gone r answer answer
  | send (queue group payload) (hgone : gone queue) : Agree gone (.send queue group payload)
      (.ready (.error (.collaborator "SendMessage" queue (some group) (.missingTopic queue))))
      (.ready (.error (.notFound "SendMessage" queue none)))
  | receive (queue group) (hgone : gone queue) : Agree gone (.receive queue group)
      (.ready (.error (.collaborator Host.receiveOp queue (some group) (.missingTopic queue))))
      (.ready (.error (.notFound Host.receiveOp queue none)))

namespace Host

variable {gone : String → Prop} {s : Snapshot} {h k : Host} {r : Request}

theorem happenings_request (r : Request) (h : Host) :
    happenings (.request r) h = r.tells (perform r h).1 := by
  have hstep : (step (.request r) h).1 = .outcome (perform r h).1 := rfl
  unfold happenings
  rw [hstep]
  rcases (perform r h).1 with _ | e | answer
  · cases r <;> rfl
  · cases r <;> rfl
  · cases r <;> cases answer <;> rfl

theorem happenings_congr (hanswer : (perform r k).1 = (perform r h).1) :
    happenings (.request r) k = happenings (.request r) h := by
  rw [happenings_request, happenings_request, hanswer]

theorem tallies_congr (hanswer : (perform r k).1 = (perform r h).1)
    (hclock : k.site.backend.clock = h.site.backend.clock) :
    tallies (.request r) k = tallies (.request r) h := by
  have hstep (g : Host) : (step (.request r) g).1 = .outcome (perform r g).1 := rfl
  unfold tallies
  rw [hstep, hstep, hanswer, hclock]
  rcases (perform r h).1 with _ | e | answer
  · cases r <;> rfl
  · cases r <;> rfl
  · cases r <;> rfl

theorem unserved_of_agree (ha : Agree gone r (perform r h).1 (perform r k).1) :
    (perform r k).1 = (perform r h).1 ∨
      (step (.request r) h).1.unserved ∧ (step (.request r) k).1.unserved := by
  have hstep (g : Host) : (step (.request r) g).1 = .outcome (perform r g).1 := rfl
  rw [hstep, hstep]
  generalize (perform r h).1 = answer, (perform r k).1 = other at ha ⊢
  cases ha with
  | same => exact .inl rfl
  | send | receive => exact .inr ⟨rfl, rfl⟩

theorem happenings_of_agree (ha : Agree gone r (perform r h).1 (perform r k).1) :
    happenings (.request r) k = happenings (.request r) h := by
  obtain hanswer | ⟨hh, hk⟩ := unserved_of_agree ha
  · exact happenings_congr hanswer
  · rw [happenings_of_unserved hh, happenings_of_unserved hk]

theorem tallies_of_agree (ha : Agree gone r (perform r h).1 (perform r k).1)
    (hclock : k.site.backend.clock = h.site.backend.clock) :
    tallies (.request r) k = tallies (.request r) h := by
  obtain hanswer | ⟨hh, hk⟩ := unserved_of_agree ha
  · exact tallies_congr hanswer hclock
  · rw [tallies_of_unserved hh, tallies_of_unserved hk]

theorem not_closesIn (hr : r.commanded) (n : Nat) : ¬ closesIn (.request r) h n := by
  have hnone : closings (.request r) h = [] := by
    cases r with
    | sessionCount | closeSession | shutdown => cases hr
    | createQueue | updateQueue | deleteQueue | lookupQueue | addGroup | updateGroup | deleteGroup
    | lookupGroup | getGroup | send | receive | acknowledge | volume | audit => rfl
  rintro (hclosing | hdirect)
  · rw [hnone] at hclosing
    cases hclosing
  · cases hdirect

theorem receivedBy_happenings_le (r : Request) (h : Host) (queue group : String) :
    (receivedBy queue group (happenings (.request r) h)).length ≤
      if r = .receive queue group then 1 else 0 := by
  rw [happenings_request]
  unfold Request.tells
  split
  · exact Nat.zero_le _
  · exact Nat.zero_le _
  · exact Nat.zero_le _
  · next q g p hanswer =>
    by_cases hnames : q = queue ∧ g = group
    · obtain ⟨rfl, rfl⟩ := hnames
      simp [receivedBy]
    · simp [receivedBy, hnames]
  · exact Nat.zero_le _

theorem deleted_of_happenings {queue : String} (hdeleted : .deleted queue ∈ happenings (.request r) h) :
    r = .deleteQueue queue ∧ ∃ answer, (perform r h).1 = .ready (.ok answer) := by
  rw [happenings_request] at hdeleted
  unfold Request.tells at hdeleted
  split at hdeleted
  · simp at hdeleted
  · next hanswer =>
    cases List.mem_singleton.mp hdeleted
    exact ⟨rfl, _, hanswer⟩
  · simp at hdeleted
  · simp at hdeleted
  · cases hdeleted

/-- Hosts that know the same. The second one has just begun, so no name is cached there. -/
structure Renews (gone : String → Prop) (h k : Host) : Prop where
  idle : h.Idle gone
  idle_other : k.Idle gone
  alike : h.site.Alike gone k.site
  feed : ∀ queue group, k.site.backend.feed queue group = h.site.backend.feed queue group
  settings : k.service.settings = h.service.settings
  cached : k.site.backend.registry.cached = []

namespace Renews

theorem obstacle (hk : h.Renews gone k) (op queue group : String) :
    k.site.obstacle? op queue group = h.site.obstacle? op queue group ∨
    (gone queue ∧ h.site.backend.registry.topics.contains queue = false ∧
      h.site.obstacle? op queue group = none ∧
      k.site.obstacle? op queue group = some (.notFound op queue none)) := by
  unfold Site.obstacle?
  cases nameFault? queue with
  | some fault => exact .inl rfl
  | none =>
      cases nameFault? group with
      | some fault => exact .inl rfl
      | none =>
          have hknows : k.site.backend.registry.knows queue =
              h.site.backend.registry.topics.contains queue := by
            rw [Registry.knows, hk.cached, hk.alike.contains]
            rfl
          dsimp only
          rw [hknows]
          unfold Registry.knows
          cases hlive : h.site.backend.registry.topics.contains queue with
          | true => exact .inl (by simp)
          | false =>
              cases hcached : h.site.backend.registry.cached.contains queue with
              | false => exact .inl (by simp)
              | true =>
                  -- Only a list that is out of date tells them apart, and then the topic is gone.
                  have hknown := hk.idle.calm.known queue (List.contains_iff_mem.mp hcached)
                  exact .inr ⟨hknown.resolve_left (by simp [hlive]), rfl, by simp, by simp⟩

theorem send_agree (hk : h.Renews gone k) (queue group : String) (payload : Payload) :
    Agree gone (.send queue group payload) (perform (.send queue group payload) h).1
      (perform (.send queue group payload) k).1 := by
  have hrun {g : Host} (hg : g.Calm gone) : (perform (.send queue group payload) g).1 =
      .ready ((sending g.site queue group).map fun _ => .done) := by
    change Poll.ready ((send queue group payload g.site).1.map fun _ => Answer.done) = _
    rw [send_answer (hg.struck _) (hg.struck _)]
  rw [hrun hk.idle.calm, hrun hk.idle_other.calm]
  unfold sending
  obtain hsame | ⟨hgone, habsent, hpasses, hfound⟩ := hk.obstacle "SendMessage" queue group
  · rw [hsame, hk.alike.contains]
    exact .same _ _
  · rw [hpasses, hfound, habsent]
    exact .send queue group payload hgone

theorem receive_agree (hk : h.Renews gone k) (queue group : String) :
    Agree gone (.receive queue group) (perform (.receive queue group) h).1
      (perform (.receive queue group) k).1 := by
  have hrun {g : Host} (hg : g.Idle gone) : (perform (.receive queue group) g).1 =
      received (receiving g.site queue group) := congrArg received (hg.receive_answer queue group)
  rw [hrun hk.idle, hrun hk.idle_other]
  unfold receiving Backend.delivery
  obtain hsame | ⟨hgone, habsent, hpasses, hfound⟩ := hk.obstacle receiveOp queue group
  · rw [hsame, hk.feed]
    exact .same _ _
  · rw [hpasses, hfound, Backend.feed_absent habsent]
    exact .receive queue group hgone

theorem traffic (hk : h.Renews gone k) (hr : r.writes = false)
    (ha : Agree gone r (perform r h).1 (perform r k).1) (hh : (perform r h).2.Calm gone)
    (hc : (perform r k).2.Calm gone) : (perform r h).2.site.Alike gone (perform r k).2.site := by
  have htraffic (g : Host) : g.site.Traffic (perform r g).2.site := (perform_moves hr g).traffic
  have hmetrics (g : Host) : (perform r g).2.site.backend.metrics =
      g.site.backend.metrics.recordAll (tallies (.request r) g) := step_metrics (.request r) g
  constructor
  · exact hh
  · exact hc
  · rw [Registry.layouts, Registry.layouts, (htraffic h).topics, (htraffic k).topics]
    exact hk.alike.layouts
  · rw [(htraffic h).metadata, (htraffic k).metadata, hk.alike.metadata]
  · rw [hmetrics, hmetrics, hk.alike.metrics, tallies_of_agree ha hk.alike.clock]
  · rw [(htraffic h).clock, (htraffic k).clock, hk.alike.clock]

/-- Topics that are gone afterwards were gone before or have just been deleted. -/
abbrev Later (gone : String → Prop) (r : Request) (h : Host) (queue : String) : Prop :=
  gone queue ∨ .deleted queue ∈ happenings (.request r) h

theorem respected {α : Type} (hk : h.Renews gone k) {x : Operation α} (hx : x.Respects gone)
    (answer : α → Answer) (r : Request) :
    Agree gone r (atOnce answer x h).1 (atOnce answer x k).1 ∧
      (atOnce answer x h).2.site.Alike (Later gone r h) (atOnce answer x k).2.site := by
  obtain ⟨hanswer, hsites⟩ := hx _ _ hk.alike
  have hsame : (atOnce answer x k).1 = (atOnce answer x h).1 :=
    congrArg (fun a : Except ServiceError α => Poll.ready (a.map answer)) hanswer
  rw [hsame]
  exact ⟨.same _ _, hsites.mono fun _ => .inl⟩

theorem delete (hk : h.Renews gone k) (queue : String) :
    Agree gone (.deleteQueue queue) (perform (.deleteQueue queue) h).1 (perform (.deleteQueue queue) k).1 ∧
      (perform (.deleteQueue queue) h).2.site.Alike (Later gone (.deleteQueue queue) h)
        (perform (.deleteQueue queue) k).2.site := by
  have hrun (g : Host) : perform (.deleteQueue queue) g =
      (.ready ((Lifecycle.delete g.service.settings queue g.site).1.map fun _ => .done),
        ⟨(Lifecycle.delete g.service.settings queue g.site).2, g.service⟩) := rfl
  rw [hrun, hrun, hk.settings]
  obtain ⟨e, s, t, hs, ht, hsites⟩ | ⟨s, t, hs, ht, hsites⟩ :=
    Lifecycle.delete_cases h.service.settings queue hk.alike
  · rw [hs, ht]
    exact ⟨.same _ _, hsites.mono fun _ => .inl⟩
  · have hdeleted : happenings (.request (.deleteQueue queue)) h = [.deleted queue] := by
      unfold happenings
      rw [step_delete, hs]
      rfl
    rw [hs, ht]
    refine ⟨.same _ _, hsites.mono fun name hname => ?_⟩
    rw [Later, hdeleted]
    exact hname.imp_right fun heq => by simp [heq]

theorem perform (hk : h.Renews gone k) (hr : r.commanded) :
    Agree gone r (perform r h).1 (perform r k).1 ∧
      (perform r h).2.site.Alike (Later gone r h) (perform r k).2.site := by
  cases r with
  | sessionCount | closeSession | shutdown => cases hr
  | createQueue queue =>
      have hcreate (g : Host) : Host.perform (.createQueue queue) g =
          atOnce (fun _ => .done) (Lifecycle.create g.service.settings queue) g := rfl
      rw [hcreate, hcreate, hk.settings]
      exact hk.respected (Lifecycle.create_respects _ queue) _ _
  | updateQueue queue => exact hk.respected (Lifecycle.update_respects queue) _ _
  | deleteQueue queue => exact hk.delete queue
  | lookupQueue queue group => exact hk.respected (Lifecycle.lookup_respects queue group) _ _
  | addGroup group queue access => exact hk.respected (Groups.add_respects group queue access) _ _
  | updateGroup group queue access => exact hk.respected (Groups.update_respects group queue access) _ _
  | deleteGroup group queue => exact hk.respected (Groups.delete_respects group queue) _ _
  | lookupGroup group => exact hk.respected (Groups.lookup_respects group) _ _
  | getGroup group queue => exact hk.respected (Groups.single_respects group queue) _ _
  | send queue group payload =>
      have hagree := hk.send_agree queue group payload
      have hcalm {g : Host} (hg : g.Calm gone) : (Host.perform (.send queue group payload) g).2.Calm gone :=
        send_calm queue group payload g.site hg
      exact ⟨hagree, (hk.traffic rfl hagree (hcalm hk.idle.calm) (hcalm hk.idle_other.calm)).mono
        fun _ => .inl⟩
  | receive queue group =>
      have hagree := hk.receive_agree queue group
      have hcalm {g : Host} (hg : g.Calm gone) : (Host.perform (.receive queue group) g).2.Calm gone :=
        receive_calm queue group g hg
      exact ⟨hagree, (hk.traffic rfl hagree (hcalm hk.idle.calm) (hcalm hk.idle_other.calm)).mono
        fun _ => .inl⟩
  | acknowledge queue group => exact ⟨.same _ _, hk.alike.mono fun _ => .inl⟩
  | volume direction queue group window =>
      exact hk.respected (Volume.query_respects direction queue group window) _ _
  | audit => exact hk.respected Lifecycle.audit_respects _ _

end Renews

theorem perform_service (r : Request) (h : Host) : (∃ queue group, r = .receive queue group) ∨
    ∃ sessions, (perform r h).2.service = { h.service with sessions } := by
  have hservice : (Event.request r).attends = false →
      ∃ sessions, (perform r h).2.service = { h.service with sessions } :=
    fun hattends => step_service hattends h
  cases r with
  | receive queue group => exact .inl ⟨queue, group, rfl⟩
  | createQueue | updateQueue | deleteQueue | lookupQueue | addGroup | updateGroup | deleteGroup
  | lookupGroup | getGroup | send | acknowledge | volume | audit | sessionCount | closeSession
  | shutdown => exact .inr (hservice rfl)

theorem perform_settings (r : Request) (h : Host) :
    (perform r h).2.service.settings = h.service.settings := step_settings (.request r) h

theorem Idle.perform_alone (hi : h.Idle gone) (r : Request) (ticket : Nat) :
    (perform r h).2.service.receives.get? ticket = none := by
  obtain ⟨queue, group, rfl⟩ | ⟨sessions, hservice⟩ := perform_service r h
  · exact hi.receive_alone queue group ticket
  · rw [hservice]
    exact hi.alone ticket

theorem Idle.perform {later : String → Prop} (hi : h.Idle gone) (hr : r.commanded)
    (hcalm : (perform r h).2.Calm later) : (perform r h).2.Idle later where
  sound := hi.sound.step (.request r)
  alone := hi.perform_alone r
  allOpen := (perform_evolves hi.sound r).allOpen (not_closesIn hr) hi.allOpen
  calm := hcalm
  brokers := by
    rw [perform_settings]
    exact hi.brokers

/-- A host that begins with what was saved. -/
def newcomer (s : Snapshot) (clock : Int64) (settings : Settings) : Host :=
  ⟨{ backend := s.restore clock }, { settings }⟩

theorem newcomer_idle (s : Snapshot) (clock : Int64) {settings : Settings} (h : settings.brokers ≠ []) :
    (newcomer s clock settings).Idle gone where
  sound := .start _ settings
  alone _ := rfl
  allOpen _ hc := absurd hc List.not_mem_nil
  calm := ⟨fun _ => rfl, rfl, rfl, fun _ hname => absurd hname List.not_mem_nil⟩
  brokers := h

/-- What was saved stands for the host: one that begins with it knows the same. -/
structure Mirrored (gone : String → Prop) (s : Snapshot) (h : Host) : Prop where
  idle : h.Idle gone
  numbered : h.site.backend.Numbered {}
  topics : h.site.backend.registry.layouts = s.topics
  metadata : h.site.backend.metadata = s.metadata
  metrics : h.site.backend.metrics = s.metrics
  kept : ∀ {queue}, h.site.backend.registry.topics.contains queue →
    ∀ group, h.site.backend.feed queue group = some (s.kept queue group)
  tidy : s.Tidy

namespace Mirrored

variable {clock : Int64}

theorem fresh {settings : Settings} (h : settings.brokers ≠ []) (clock : Int64) :
    Mirrored gone {} (newcomer {} clock settings) where
  idle := newcomer_idle {} clock h
  numbered := Backend.restore_numbered {} clock
  topics := rfl
  metadata := rfl
  metrics := rfl
  kept hqueue := Backend.restore_feed hqueue
  tidy := ⟨fun _ _ => rfl, fun _ _ => Nat.le_refl 0⟩

theorem wait (hm : Mirrored gone s h) (now : Int64) :
    Mirrored gone s (onSite (Site.apply (.clock now)) h).2 where
  idle := ⟨hm.idle.sound.step (.condition (.clock now)), hm.idle.alone, hm.idle.allOpen,
    ⟨hm.idle.calm.faults, hm.idle.calm.drift, hm.idle.calm.gateShut, hm.idle.calm.known⟩, hm.idle.brokers⟩
  numbered := hm.numbered.agrees rfl rfl fun _ => ⟨rfl, rfl, rfl⟩
  topics := hm.topics
  metadata := hm.metadata
  metrics := hm.metrics
  kept := hm.kept
  tidy := hm.tidy

theorem renews (hm : Mirrored gone s h) :
    h.Renews gone (newcomer s h.site.backend.clock h.service.settings) := by
  have hother : (newcomer s h.site.backend.clock h.service.settings).Idle gone :=
    newcomer_idle s h.site.backend.clock hm.idle.brokers
  have halike : h.site.Alike gone (newcomer s h.site.backend.clock h.service.settings).site :=
    ⟨hm.idle.calm, hother.calm, (Registry.layouts_restore s.topics).trans hm.topics.symm, hm.metadata.symm,
      hm.metrics.symm, rfl⟩
  refine ⟨hm.idle, hother, halike, fun queue group => ?_, rfl, rfl⟩
  cases hlive : h.site.backend.registry.topics.contains queue with
  | false =>
      have habsent := (halike.contains queue).trans hlive
      rw [Backend.feed_absent hlive, Backend.feed_absent habsent]
  | true =>
      have hpresent := (halike.contains queue).trans hlive
      rw [hm.kept hlive, ← Backend.restore_feed hpresent]
      rfl

end Mirrored

/-- The host answers a single request and is shut down. -/
def visit (r : Request) (k : Host) : Host := (shutdown (perform r k).2).2

theorem visit_evolves (hk : k.Sound) (r : Request) : Backend.Evolves (fun _ => True) k.site.backend
    (happenings (.request r) k) (visit r k).site.backend := by
  have hanswered := (perform_evolves hk r).mono fun _ _ => trivial
  have hclosed := (shutdown_evolves (perform r k).2).mono fun _ _ => trivial
  have hboth := hanswered.trans hclosed
  rw [List.append_nil] at hboth
  exact hboth

theorem visit_traffic (r : Request) (k : Host) : (perform r k).2.site.Traffic (visit r k).site :=
  (shutdown_moves _).traffic

theorem visit_settled (s : Snapshot) (clock : Int64) (settings : Settings) (r : Request) :
    (visit r (newcomer s clock settings)).site.backend.Settled := by
  have hvisit := visit_evolves (.start _ settings : (newcomer s clock settings).Sound) r
  refine (hvisit.settled (Backend.restore_current s clock) fun queue hdeleted name hcreated => ?_).1
  rw [happenings_of_created hcreated] at hdeleted
  cases List.mem_singleton.mp hdeleted

namespace Mirrored

theorem visit_feed (hm : Mirrored gone s h) (r : Request) (queue group : String) :
    let k := newcomer s h.site.backend.clock h.service.settings
    Feed queue group (h.site.backend.feed queue group) (happenings (.request r) k)
      ((visit r k).site.backend.feed queue group) := by
  intro k
  have hk : h.Renews gone k := hm.renews
  have hvisit := visit_evolves hk.idle_other.sound r
  have hnumbered := Backend.restore_numbered s h.site.backend.clock
  rw [← hk.feed]
  exact hvisit.feed hnumbered queue group fun hcreated =>
    Backend.inheritance_of_tidy hm.tidy (hvisit.unmade hnumbered (happenings_of_created hcreated)) group

theorem visit_feed_eq (hm : Mirrored gone s h) (hr : r.commanded) (queue group : String) :
    (visit r (newcomer s h.site.backend.clock h.service.settings)).site.backend.feed queue group =
      (perform r h).2.site.backend.feed queue group := by
  have hbrief := hm.visit_feed r queue group
  dsimp only at hbrief
  rw [happenings_of_agree (hm.renews.perform hr).1] at hbrief
  exact ((perform_evolves hm.idle.sound r).feed hm.numbered queue group fun _ => ite_self _).unique hbrief

theorem perform (hm : Mirrored gone s h) (hr : r.commanded) :
    Mirrored (Renews.Later gone r h)
      (visit r (newcomer s h.site.backend.clock h.service.settings)).site.backend.snapshot
      (perform r h).2 := by
  have hk := hm.renews
  obtain ⟨-, halike⟩ := hk.perform hr
  let k := newcomer s h.site.backend.clock h.service.settings
  have htraffic := visit_traffic r k
  have hvisit := visit_evolves hk.idle_other.sound r
  constructor
  · exact hm.idle.perform hr halike.calm
  · exact (perform_evolves hm.idle.sound r).numbered hm.numbered
  · exact halike.layouts.symm.trans (by rw [Registry.layouts, ← htraffic.topics]; rfl)
  · exact halike.metadata.symm.trans htraffic.metadata.symm
  · exact halike.metrics.symm.trans (shutdown_metrics _).symm
  · intro queue hlive group
    have hpresent : (visit r k).site.backend.registry.topics.contains queue := by
      rw [htraffic.topics, halike.contains]
      exact hlive
    rw [← hm.visit_feed_eq hr, (visit_settled s _ _ r).feed hpresent]
  · exact Backend.tidy_snapshot (hvisit.measured hm.tidy.measured)

theorem kept_le (hm : Mirrored gone s h) (r : Request) (queue group : String) :
    ((visit r (newcomer s h.site.backend.clock h.service.settings)).site.backend.snapshot.kept queue group).2 ≤
      (s.kept queue group).2 + if r = .receive queue group then 1 else 0 := by
  let k := newcomer s h.site.backend.clock h.service.settings
  have hplace : Feed.place (h.site.backend.feed queue group) ≤ (s.kept queue group).2 := by
    cases hlive : h.site.backend.registry.topics.contains queue with
    | false =>
        rw [Backend.feed_absent hlive]
        exact Nat.zero_le _
    | true => exact Nat.le_of_eq (congrArg Feed.place (hm.kept hlive group))
  have hfeed := (hm.visit_feed r queue group).place_le
  have hreceived := receivedBy_happenings_le r k queue group
  cases hlive : (visit r k).site.backend.registry.topics.contains queue with
  | false =>
      have hkept := (Backend.tidy_snapshot ((visit_evolves hm.renews.idle_other.sound r).measured
        hm.tidy.measured)).topics ((Registry.contains_layouts _ queue).trans hlive) group
      rw [hkept]
      exact Nat.zero_le _
  | true =>
      rw [(visit_settled s _ _ r).feed hlive] at hfeed
      exact Nat.le_trans hfeed (Nat.add_le_add hplace hreceived)

end Mirrored

end Host

end ManagedQueue
