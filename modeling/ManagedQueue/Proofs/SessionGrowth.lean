import ManagedQueue.Proofs.HostMoves
import ManagedQueue.Proofs.MessageFeed

namespace ManagedQueue

theorem Transport.take_sessions (t : Transport) (queue group : String) :
    (t.take queue group).2.sessions = t.sessions := by
  obtain ⟨n, hn⟩ := take_setOffset t queue group
  rw [hn]
  rfl

namespace Site

theorem Looks.unopened {session : Nat} {s t : Site} {answer : Except CollaboratorError (Option Payload)}
    (h : Looks session s answer t) : t.backend.transport.sessions = s.backend.transport.sessions := by
  cases h with
  | unknown | closed | missing => rfl
  | looked c i _ _ _ _ ht =>
      rw [ht.transport]
      exact Transport.take_sessions (s.backend.transport.bind c.queue i) c.queue c.group

theorem closeNow_count (session : Nat) (s : Site) :
    (Host.closeNow session s).2.backend.transport.sessions.length = s.backend.transport.sessions.length := by
  obtain ⟨e, -, hr⟩ | ⟨-, hr⟩ := closeNow_cases session s
  · rw [hr]
    rfl
  · rw [hr]
    exact List.length_modify ..

theorem closeEach_count (entries : List (String × Nat)) (s : Site) :
    (Host.closeEach entries s).2.backend.transport.sessions.length = s.backend.transport.sessions.length := by
  induction entries generalizing s with
  | nil => rfl
  | cons entry rest ih => exact (ih (Host.closeNow entry.2 s).2).trans (closeNow_count entry.2 s)

end Site

namespace Host

/-- The table is the same, and the transport has no other sessions than before. -/
structure KeepsSessions (h h' : Host) : Prop where
  table : h'.service.sessions = h.service.sessions
  transport : h'.site.backend.transport.sessions = h.site.backend.transport.sessions

namespace KeepsSessions

variable {h h' h'' : Host}

theorem refl (h : Host) : KeepsSessions h h := ⟨rfl, rfl⟩

theorem trans (k : KeepsSessions h h') (l : KeepsSessions h' h'') : KeepsSessions h h'' :=
  ⟨l.table.trans k.table, l.transport.trans k.transport⟩

end KeepsSessions

variable {h h' : Host} {ticket : Nat} {r : Receive}

theorem Sends.unopened {queue group : String} {payload : Payload} {s t : Site}
    {answer : Except ServiceError Unit} (hs : Sends queue group payload s answer t) :
    t.backend.transport.sessions = s.backend.transport.sessions := by
  cases hs with
  | refused _ _ ht => rw [ht.transport]
  | sent i _ _ ht =>
      rw [ht.transport]
      rfl

theorem LooksNow.keepsSessions {session : Nat} {answer : Poll Received}
    (hl : LooksNow ticket r session h answer h') : KeepsSessions h h' := by
  cases hl with
  | failed e s hs => exact ⟨rfl, hs.unopened⟩
  | quiet s hs => exact ⟨rfl, hs.unopened⟩
  | received payload s t hs ht =>
      refine ⟨rfl, ?_⟩
      change t.backend.transport.sessions = _
      rw [ht.transport]
      exact hs.unopened

theorem Listens.keepsSessions {session : Nat} {answer : Poll Received}
    (hl : Listens ticket r session h answer h') : KeepsSessions h h' := by
  cases hl with
  | struck => exact ⟨rfl, rfl⟩
  | looked _ _ _ hl => exact ⟨hl.keepsSessions.table, hl.keepsSessions.transport⟩

def Acquisition.opens (r : Receive) : Acquisition → List Session
  | .opened _ => [⟨r.queue, r.group, false⟩]
  | .waits | .found _ | .refused _ => []

theorem Acquires.grows {a : Acquisition} (ha : Acquires ticket r h a h') :
    h'.site.backend.transport.sessions = h.site.backend.transport.sessions ++ a.opens r := by
  cases ha with
  | inLine | shut | found => exact (List.append_nil _).symm
  | refused e s _ _ _ ht =>
      change s.backend.transport.sessions = _
      rw [ht.transport]
      exact (List.append_nil _).symm
  | opened i s _ _ _ ht =>
      change s.backend.transport.sessions = _
      rw [ht.transport]
      rfl

theorem advance_keepsSessions (ticket : Nat) (r : Receive) (h : Host)
    (hstage : ∀ n w, r.stage ≠ .waiting n w) :
    KeepsSessions (acquire ticket r h).2 (advance ticket r h).2 := by
  rw [advance_run ticket r h hstage]
  rcases acquire ticket r h with ⟨_ | n | n | e, h'⟩
  · exact .refl h'
  · exact (listen_listens ticket r n h').keepsSessions
  · exact (listen_listens ticket r n h').keepsSessions
  · exact ⟨rfl, rfl⟩

theorem Advances.keepsSessions_of_waiting {answer : Poll Received} {session wakeups : Nat}
    (ha : Advances ticket r h answer h') (hstage : r.stage = .waiting session wakeups) :
    KeepsSessions h h' := by
  cases ha with
  | idle => exact .refl h
  | woken _ _ _ _ _ _ hl => exact hl.keepsSessions
  | waits _ hnot | served _ _ _ _ _ hnot | refused _ _ hnot => exact absurd hstage (hnot _ _)

theorem Enters.keepsSessions {queue group : String} {a : Nat × Except ServiceError Receive}
    (he : Enters queue group h a h') : KeepsSessions h h' :=
  ⟨he.sessions, by rw [he.glance.transport]⟩

theorem cancel_keepsSessions (ticket : Nat) (h : Host) : KeepsSessions h (cancel ticket h).2 :=
  ⟨cancel_sessions ticket h, by rw [cancel_site]⟩

theorem receive_keepsSessions (queue group : String) (h : Host) :
    KeepsSessions (start queue group h).2 (receive queue group h).2 :=
  ⟨receive_sessions queue group h, by rw [receive_site]⟩

theorem closeSession_count (queue group : String) (h : Host) :
    (closeSession queue group h).2.site.backend.transport.sessions.length =
      h.site.backend.transport.sessions.length := by
  have hc := closeSession_closes queue group h
  generalize closeSession queue group h = out at hc ⊢
  rcases out with ⟨answer, h'⟩
  cases hc with
  | busy | absent => rfl
  | failed n e s _ _ hclose =>
      have hn := Site.closeNow_count n h.site
      rwa [hclose] at hn
  | closed n s t _ _ hclose ht =>
      have hn := Site.closeNow_count n h.site
      rw [hclose] at hn
      change t.backend.transport.sessions.length = _
      rw [ht.transport, hn]

theorem shutdown_count (h : Host) : (shutdown h).2.site.backend.transport.sessions.length =
    h.site.backend.transport.sessions.length := by
  have hd := shutdown_shutsDown h
  generalize shutdown h = out at hd ⊢
  rcases out with ⟨answer, h'⟩
  cases hd with
  | busy => rfl
  | done answers s t _ hclose ht =>
      have hn := Site.closeEach_count h.service.sessions.entries h.site
      rw [hclose] at hn
      change t.backend.transport.sessions.length = _
      rw [ht.transport, hn]

/-- No step opens a session in which no receive comes or goes on, unless it does so past the service. -/
theorem step_count {e : Event} (he : e.attends = false) (hdirect : ∀ d, e ≠ .direct d) (h : Host) :
    (step e h).2.site.backend.transport.sessions.length = h.site.backend.transport.sessions.length := by
  have hglance {α : Type} {x : Operation α} (hx : Operation.Glances x) :
      (x h.site).2.backend.transport.sessions.length = h.site.backend.transport.sessions.length := by
    rw [(hx h.site).transport]
  cases e with
  | start | poll | cancel => cases he
  | direct d => exact absurd rfl (hdirect d)
  | condition c => cases c <;> rfl
  | request q =>
      cases hq : q.writes with
      | true => exact congrArg (·.sessions.length) (perform_transport hq h)
      | false =>
          cases q with
          | createQueue | deleteQueue | addGroup | updateGroup | deleteGroup => cases hq
          | receive => cases he
          | updateQueue queue => exact hglance (Lifecycle.update_glances queue)
          | lookupQueue queue group => exact hglance (Lifecycle.lookup_glances queue group)
          | lookupGroup group => exact hglance (Groups.lookup_glances group)
          | getGroup group queue => exact hglance (Groups.single_glances group queue)
          | volume direction queue group window =>
              exact hglance (Volume.query_glances direction queue group window)
          | audit => exact hglance Lifecycle.audit_glances
          | send queue group payload =>
              exact congrArg List.length (send_sends queue group payload h.site).unopened
          | acknowledge => rfl
          | sessionCount => exact congrArg (·.site.backend.transport.sessions.length) (sessionCount_host h)
          | closeSession queue group => exact closeSession_count queue group h
          | shutdown => exact shutdown_count h

end Host

end ManagedQueue
