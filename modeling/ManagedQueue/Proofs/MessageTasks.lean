import ManagedQueue.Proofs.Footprints

namespace ManagedQueue

namespace Transport.Extends

theorem openSession (t : Transport) (queue group : String) : Extends t (t.openSession queue group).2 := by
  intro n c hc
  obtain ⟨hn, -⟩ := List.getElem?_eq_some_iff.mp hc
  exact ⟨c, by rw [← hc]; exact List.getElem?_append_left hn, rfl, rfl, id⟩

theorem closeSession (t : Transport) (session : Nat) : Extends t (t.closeSession session) := by
  intro n c hc
  by_cases hn : session = n
  · refine ⟨{ c with closed := true }, ?_, rfl, rfl, fun _ => rfl⟩
    simp [Transport.closeSession, Transport.wake, hn, hc]
  · exact ⟨c, by simp [Transport.closeSession, Transport.wake, hn, hc], rfl, rfl, id⟩

theorem take (t : Transport) (queue group : String) : Extends t (t.take queue group).2 := by
  unfold Transport.take
  dsimp only
  split <;> exact of_eq rfl

end Transport.Extends

namespace Site

theorem attach_cases (queue : String) (s : Site) :
    (s.backend.registry.incarnation? queue = none ∧
      attach queue s = (.error (.missingTopic queue), s)) ∨
    ∃ i t, s.backend.registry.incarnation? queue = some i ∧ attach queue s = (.ok (), t) ∧
      (s.withTransport (s.backend.transport.bind queue i)).Glance t := by
  unfold attach
  rw [bind_apply, get_apply]
  cases s.backend.registry.incarnation? queue with
  | none => exact .inl ⟨rfl, rfl⟩
  | some i =>
      refine .inr ⟨i, ?_⟩
      simp only [bind_apply, true_and]
      cases s.backend.transport.isStale queue i with
      | false => exact ⟨_, rfl, .refl _⟩
      | true => exact ⟨_, rfl, .note _ (by decide) _ _⟩

theorem Glance.withTransport {s t : Site} (h : Glance s t) (u : Transport) :
    Glance (s.withTransport u) (t.withTransport u) :=
  ⟨⟨h.topics, h.nextIncarnation, h.metadata, h.clock, h.drift, h.gateShut, h.journal, .refl _⟩,
    rfl, h.metrics⟩

theorem Glance.withMetrics {s t : Site} (h : Glance s t) (m : Metrics) :
    Glance (s.withMetrics m) (t.withMetrics m) :=
  ⟨⟨h.topics, h.nextIncarnation, h.metadata, h.clock, h.drift, h.gateShut, h.journal,
    h.sessions⟩, h.transport, rfl⟩

theorem Traffic.of_withTransport {s t : Site} {u : Transport} (h : Traffic (s.withTransport u) t)
    (hu : s.backend.transport.Extends u) : Traffic s t := by
  have hs : Traffic s (s.withTransport u) := .of_eq rfl rfl rfl rfl rfl rfl hu
  exact hs.trans h

theorem Traffic.of_withMetrics {s t : Site} {m : Metrics} (h : Traffic (s.withMetrics m) t) :
    Traffic s t := by
  have hs : Traffic s (s.withMetrics m) := .of_eq rfl rfl rfl rfl rfl rfl (.refl _)
  exact hs.trans h

theorem Traffic.incarnation? {s t : Site} (h : Traffic s t) (queue : String) :
    t.backend.registry.incarnation? queue = s.backend.registry.incarnation? queue := by
  unfold Registry.incarnation?
  rw [h.topics]

theorem produce_cases (queue : String) (payload : Payload) (s : Site) :
    (s.backend.registry.incarnation? queue = none ∧
      produce queue payload s = (.error (.missingTopic queue), s)) ∨
    ∃ i t, s.backend.registry.incarnation? queue = some i ∧ produce queue payload s = (.ok (), t) ∧
      (s.withTransport ((s.backend.transport.bind queue i).append queue payload)).Glance t := by
  unfold produce
  rw [bind_apply]
  obtain ⟨hi, hr⟩ | ⟨i, t, hi, hr, ht⟩ := attach_cases queue s
  · rw [hr]
    exact .inl ⟨hi, rfl⟩
  · rw [hr]
    refine .inr ⟨i, t.withTransport (t.backend.transport.append queue payload), hi, rfl, ?_⟩
    rw [ht.transport]
    exact ht.withTransport _

theorem pending_cases (queue group : String) (s : Site) :
    (s.backend.registry.incarnation? queue = none ∧ pending queue group s = (0, s)) ∨
    ∃ i t, s.backend.registry.incarnation? queue = some i ∧
      pending queue group s = ((s.backend.transport.bind queue i).pending queue group, t) ∧
      (s.withTransport (s.backend.transport.bind queue i)).Glance t := by
  unfold pending
  rw [bind_apply]
  obtain ⟨hi, hr⟩ | ⟨i, t, hi, hr, ht⟩ := attach_cases queue s
  · rw [hr]
    exact .inl ⟨hi, rfl⟩
  · rw [hr]
    refine .inr ⟨i, t, hi, ?_, ht⟩
    change (t.backend.transport.pending queue group, t) = _
    rw [ht.transport]
    rfl

theorem produce_traffic (queue : String) (payload : Payload) (s : Site) :
    Traffic s (produce queue payload s).2 := by
  obtain ⟨-, hr⟩ | ⟨i, t, -, hr, ht⟩ := produce_cases queue payload s
  · rw [hr]
    exact .refl s
  · rw [hr]
    exact ht.toTraffic.of_withTransport (.of_eq rfl)

theorem pending_traffic (queue group : String) (s : Site) : Traffic s (pending queue group s).2 := by
  obtain ⟨-, hr⟩ | ⟨i, t, -, hr, ht⟩ := pending_cases queue group s
  · rw [hr]
    exact .refl s
  · rw [hr]
    exact ht.toTraffic.of_withTransport (.of_eq rfl)

inductive Opens (addresses : List String) (queue group : String) (s : Site) :
    Except CollaboratorError Nat → Site → Prop
  | unavailable (h : addresses = []) :
      Opens addresses queue group s (.error ⟨.unavailable, "no broker addresses configured"⟩) s
  | missing (hi : s.backend.registry.incarnation? queue = none) :
      Opens addresses queue group s (.error (.missingTopic queue)) s
  | opened (i t) (hi : s.backend.registry.incarnation? queue = some i)
      (ht : (s.withTransport ((s.backend.transport.bind queue i).openSession queue group).2).Glance t)
      (h : addresses ≠ []) :
      Opens addresses queue group s (.ok s.backend.transport.sessions.length) t

theorem openSession_opens (addresses : List String) (queue group : String) (s : Site) :
    Opens addresses queue group s (openSession addresses queue group s).1
      (openSession addresses queue group s).2 := by
  unfold openSession
  cases addresses with
  | nil => exact .unavailable rfl
  | cons address rest =>
      simp only [List.isEmpty_cons, Bool.false_eq_true, if_false, bind_apply]
      obtain ⟨hi, hr⟩ | ⟨i, t, hi, hr, ht⟩ := attach_cases queue s
      · rw [hr]
        exact .missing hi
      · rw [hr]
        have hu := ht.withTransport ((s.backend.transport.bind queue i).openSession queue group).2
        change Opens _ queue group s (.ok t.backend.transport.sessions.length) (note .debug .transport _
          (t.withTransport (t.backend.transport.openSession queue group).2)).2
        rw [ht.transport]
        exact .opened i _ hi (hu.trans (.note _ (by decide) _ _)) (List.cons_ne_nil _ _)

theorem Opens.traffic {addresses : List String} {queue group : String} {s t : Site}
    {answer : Except CollaboratorError Nat} (h : Opens addresses queue group s answer t) :
    Traffic s t := by
  cases h with
  | unavailable | missing => exact .refl s
  | opened i _ _ ht =>
      have hbind : s.backend.transport.Extends (s.backend.transport.bind queue i) := .of_eq rfl
      exact ht.toTraffic.of_withTransport (hbind.trans (.openSession _ queue group))

inductive Looks (session : Nat) (s : Site) :
    Except CollaboratorError (Option Payload) → Site → Prop
  | unknown (h : s.backend.transport.sessions[session]? = none) :
      Looks session s (.error ⟨.closed, ""⟩) s
  | closed (c) (h : s.backend.transport.sessions[session]? = some c) (hc : c.closed = true) :
      Looks session s (.error ⟨.closed, sessionKey c.queue c.group⟩) s
  | missing (c) (h : s.backend.transport.sessions[session]? = some c) (hc : c.closed = false)
      (hi : s.backend.registry.incarnation? c.queue = none) :
      Looks session s (.error (.missingTopic c.queue)) s
  | looked (c i t) (h : s.backend.transport.sessions[session]? = some c) (hc : c.closed = false)
      (hi : s.backend.registry.incarnation? c.queue = some i)
      (ht : (s.withTransport ((s.backend.transport.bind c.queue i).take c.queue c.group).2).Glance t) :
      Looks session s (.ok ((s.backend.transport.bind c.queue i).take c.queue c.group).1) t

theorem look_looks (session : Nat) (s : Site) :
    Looks session s (look session s).1 (look session s).2 := by
  unfold look
  rw [bind_apply, get_apply]
  cases h : s.backend.transport.sessions[session]? with
  | none => exact .unknown h
  | some c =>
      dsimp only
      split
      · next hc => exact .closed c h hc
      · next hc =>
        have hc := Bool.eq_false_iff.mpr hc
        rw [bind_apply]
        obtain ⟨hi, hr⟩ | ⟨i, t, hi, hr, ht⟩ := attach_cases c.queue s
        · rw [hr]
          exact .missing c h hc hi
        · rw [hr]
          change Looks session s (.ok (t.backend.transport.take c.queue c.group).1)
            (t.withTransport (t.backend.transport.take c.queue c.group).2)
          rw [ht.transport]
          exact .looked c i _ h hc hi (ht.withTransport _)

theorem Looks.traffic {session : Nat} {s t : Site} {answer : Except CollaboratorError (Option Payload)}
    (h : Looks session s answer t) : Traffic s t := by
  cases h with
  | unknown | closed | missing => exact .refl s
  | looked c i _ _ _ _ ht =>
      have hbind : s.backend.transport.Extends (s.backend.transport.bind c.queue i) := .of_eq rfl
      exact ht.toTraffic.of_withTransport (hbind.trans (.take _ c.queue c.group))

theorem closeNow_cases (session : Nat) (s : Site) :
    (∃ e, s.struck .close = some e ∧ Host.closeNow session s = (.error e, s.counted .close)) ∨
    s.struck .close = none ∧ Host.closeNow session s = (.ok (),
      (s.counted .close).withTransport (s.backend.transport.closeSession session)) := by
  unfold Host.closeNow
  rw [Operation.attempt_run]
  cases h : s.struck .close with
  | some e => exact .inl ⟨e, rfl, rfl⟩
  | none => exact .inr ⟨rfl, rfl⟩

theorem closeNow_traffic (session : Nat) (s : Site) : Traffic s (Host.closeNow session s).2 := by
  obtain ⟨e, -, hr⟩ | ⟨-, hr⟩ := closeNow_cases session s
  · rw [hr]
    exact (Glance.counted s .close).toTraffic
  · rw [hr]
    exact (Glance.counted s .close).toTraffic.trans (.of_withTransport (.refl _) (.closeSession _ _))

theorem closeEach_traffic (entries : List (String × Nat)) (s : Site) :
    Traffic s (Host.closeEach entries s).2 := by
  induction entries generalizing s with
  | nil => exact .refl s
  | cons entry rest ih => exact (closeNow_traffic entry.2 s).trans (ih _)

theorem countClosed_glance (answers : List (String × Except CollaboratorError Unit)) (s : Site) :
    s.Glance (Host.countClosed answers s).2 := by
  induction answers generalizing s with
  | nil => exact .refl s
  | cons answer rest ih =>
      rcases answer with ⟨key, e | ⟨⟩⟩
      · exact (Glance.note s (by decide) _ _).trans (ih _)
      · exact ih s

end Site

namespace Host

theorem checkReceive_glances (queue group : String) : Operation.Glances (checkReceive queue group) :=
  .bind (Operation.requireName_glances _ _) fun _ =>
    .bind (Operation.requireName_glances _ _) fun _ => Operation.requireTopic_glances _ _ _

inductive Sends (queue group : String) (payload : Payload) (s : Site) :
    Except ServiceError Unit → Site → Prop
  | refused (e t) (ht : s.Glance t) : Sends queue group payload s (.error e) t
  | sent (i t) (hi : s.backend.registry.incarnation? queue = some i)
      (ht : ((s.withTransport ((s.backend.transport.bind queue i).append queue payload)).withMetrics
        (s.backend.metrics.record .send queue group ⟨s.backend.clock, 1⟩)).Glance t) :
      Sends queue group payload s (.ok ()) t

theorem send_sends (queue group : String) (payload : Payload) (s : Site) :
    Sends queue group payload s (send queue group payload s).1 (send queue group payload s).2 := by
  unfold send
  refine (Operation.requireName_glances "Queue" queue).followed s .refused fun _ t ht => ?_
  refine (Operation.requireName_glances "Group" group).followed t
    (fun e u hu => .refused e u (ht.trans hu)) fun _ u hu => ?_
  refine (Operation.requireTopic_glances .lenient "SendMessage" queue).followed u
    (fun e v hv => .refused e v ((ht.trans hu).trans hv)) fun _ v hv => ?_
  -- The checks only look, and so does counting the call against its plan.
  have hsv := ((ht.trans hu).trans hv).trans (.counted v .produce)
  rw [Operation.bind_run, Operation.call_run, Operation.attempt_run]
  cases v.struck .produce with
  | some e => exact .refused _ _ hsv
  | none =>
      obtain ⟨hi, hr⟩ | ⟨i, w, hi, hr, hw⟩ := Site.produce_cases queue payload (v.counted .produce)
      · rw [hr]
        exact .refused _ _ hsv
      · rw [hr]
        rw [hsv.incarnation?] at hi
        rw [hsv.transport] at hw
        have hsw := (hsv.withTransport ((s.backend.transport.bind queue i).append queue payload)).trans hw
        change Sends queue group payload s (.ok ()) (Site.note .debug .gateway _ (w.withMetrics
          (w.backend.metrics.record .send queue group ⟨w.backend.clock, 1⟩))).2
        rw [hsw.metrics, hsw.clock]
        exact .sent i _ hi ((hsw.withMetrics _).trans (.note _ (by decide) _ _))

theorem Sends.traffic {queue group : String} {payload : Payload} {s t : Site}
    {answer : Except ServiceError Unit} (h : Sends queue group payload s answer t) : s.Traffic t := by
  cases h with
  | refused _ _ ht => exact ht.toTraffic
  | sent i _ _ ht =>
      exact ht.toTraffic.of_withMetrics.of_withTransport (.of_eq rfl)

end Host

end ManagedQueue
