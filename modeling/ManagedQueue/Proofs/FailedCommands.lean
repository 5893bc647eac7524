import ManagedQueue.Proofs.LikeHosts

namespace ManagedQueue

namespace Table

variable {κ α : Type} [LE κ] [LT κ] [Std.LawfulOrderLT κ] [Std.IsLinearOrder κ] [DecidableEq κ]

theorem filterKeys_insert [DecidableLT κ] {p : κ → Bool} {k : κ} (hk : p k) (t : Table κ α) (v : α) :
    (t.insert k v).filterKeys p = (t.filterKeys p).insert k v := by
  apply ext_get?
  intro j
  rw [get?_filterKeys, get?_insert, get?_insert, get?_filterKeys]
  by_cases hj : j = k
  · rw [if_pos hj, if_pos hj, hj, if_pos hk]
  · rw [if_neg hj, if_neg hj]

end Table

namespace Transport

theorem bind_fresh {t : Transport} {queue : String} {incarnation : Nat}
    (h : t.isStale queue incarnation = false) :
    t.bind queue incarnation = { t with bindings := t.bindings.insert queue incarnation } := by
  unfold bind
  rw [h]
  rfl

def offset? (offsets : NameMap (NameMap Nat)) (queue group : String) : Option Nat :=
  (offsets.get? queue).bind (·.get? group)

variable {t : Transport} {queue group : String}

theorem setOffset_of_some {n : Nat} (h : offset? t.offsets queue group = some n) :
    t.setOffset queue group (t.offset queue group) = t := by
  obtain ⟨groups, hgroups, hn⟩ := Option.bind_eq_some_iff.mp h
  have hoffsets : t.groupOffsets queue = groups := by rw [groupOffsets, Table.getD, hgroups, Option.getD_some]
  have hoffset : t.offset queue group = n := by rw [offset, hoffsets, Table.getD, hn, Option.getD_some]
  rw [setOffset, hoffset, hoffsets, Table.insert_of_get? hn, Table.insert_of_get? hgroups]

theorem offset_of_none (h : offset? t.offsets queue group = none) : t.offset queue group = 0 := by
  unfold offset? at h
  unfold offset groupOffsets Table.getD
  cases hgroups : t.offsets.get? queue with
  | none => rfl
  | some groups =>
      rw [hgroups] at h
      rw [Option.getD_some, show groups.get? group = none from h, Option.getD_none]

end Transport

namespace Site

/-- Traffic that leaves messages, offsets and counts as they are. -/
structure Spares (s t : Site) : Prop extends Traffic s t where
  logs : t.backend.transport.logs = s.backend.transport.logs
  offsets : t.backend.transport.offsets = s.backend.transport.offsets
  metrics : t.backend.metrics = s.backend.metrics

namespace Spares

variable {s t u : Site}

theorem of_glance (h : Glance s t) : Spares s t :=
  ⟨h.toTraffic, by rw [h.transport], by rw [h.transport], h.metrics⟩

theorem trans (h : Spares s t) (k : Spares t u) : Spares s u :=
  ⟨h.toTraffic.trans k.toTraffic, k.logs.trans h.logs, k.offsets.trans h.offsets, k.metrics.trans h.metrics⟩

theorem withTransport (s : Site) {u : Transport} (hsessions : s.backend.transport.Extends u)
    (hlogs : u.logs = s.backend.transport.logs) (hoffsets : u.offsets = s.backend.transport.offsets) :
    Spares s (s.withTransport u) :=
  ⟨.of_withTransport (.refl _) hsessions, hlogs, hoffsets, rfl⟩

theorem snapshot (h : Spares s t) : t.backend.snapshot = s.backend.snapshot := by
  simp only [Backend.snapshot, Registry.layouts, h.topics, h.metadata, h.logs, h.offsets, h.metrics]

end Spares

theorem closeNow_spares (session : Nat) (s : Site) : Spares s (Host.closeNow session s).2 := by
  have hcounted := Spares.of_glance (.counted s .close)
  obtain ⟨e, -, hrun⟩ | ⟨-, hrun⟩ := closeNow_cases session s
  · rw [hrun]
    exact hcounted
  · rw [hrun]
    exact hcounted.trans (.withTransport _ (.closeSession _ session) rfl rfl)

theorem closeEach_spares (entries : List (String × Nat)) (s : Site) :
    Spares s (Host.closeEach entries s).2 := by
  induction entries generalizing s with
  | nil => exact .of_glance (.refl s)
  | cons entry rest ih => exact (closeNow_spares entry.2 s).trans (ih _)

end Site

/-- A group without an offset has one that says that it was given nothing. -/
def Snapshot.begin (s : Snapshot) (queue group : String) : Snapshot :=
  { s with offsets := s.offsets.insert queue ((s.offsets.getD queue ∅).insert group 0) }

namespace Host

open Site

variable {gone : String → Prop} {h : Host} {r : Request}

theorem shutdown_spares (h : Host) : h.site.Spares (shutdown h).2.site := by
  have hd := shutdown_shutsDown h
  generalize shutdown h = out at hd ⊢
  rcases out with ⟨answer, h'⟩
  cases hd with
  | busy => exact .of_glance (.refl _)
  | done answers s t hfree hclose ht =>
      have hs := closeEach_spares h.service.sessions.entries h.site
      rw [hclose] at hs
      exact hs.trans (.of_glance ht)

theorem provision_succeeds (hcalm : h.Calm gone) (settings : Settings) (queue : String) :
    ¬ Lifecycle.ProvisionFails settings queue h.site := by
  rintro ⟨t, e, hfirst, hsecond⟩
  have hnew := Lifecycle.recordNew_recordsNew queue h.site
  have halike : h.site.Alike gone h.site := ⟨hcalm, hcalm, rfl, rfl, rfl, rfl⟩
  have hcalm' := (Lifecycle.recordNew_respects queue _ _ halike).2.calm
  rw [hfirst] at hnew hcalm'
  cases hnew with
  | recorded m _ _ hs _ ht =>
      have hfree : t.backend.registry.topics.contains queue = false := by
        rw [ht.topics]
        exact (Backend.standing_eq_absent.mp hs).2
      rw [hcalm'.attempt] at hsecond
      unfold Site.createTopic Registry.create at hsecond
      rw [bind_apply, get_apply, hfree] at hsecond
      cases hsecond

theorem withdraw_succeeds (hcalm : h.Calm gone) (settings : Settings) (queue : String) :
    ¬ Lifecycle.WithdrawFails settings queue h.site := by
  rintro ⟨t, e, hfirst, hsecond⟩
  have hold := Lifecycle.unrecord_unrecords queue h.site
  have halike : h.site.Alike gone h.site := ⟨hcalm, hcalm, rfl, rfl, rfl, rfl⟩
  have hcalm' := (Lifecycle.unrecord_respects queue _ _ halike).2.calm
  rw [hfirst] at hold hcalm'
  cases hold with
  | removed m _ _ hs _ ht =>
      have hthere : t.backend.registry.topics.contains queue = true := by
        rw [ht.topics]
        exact (Backend.standing_eq_both.mp hs).2
      rw [hcalm'.attempt] at hsecond
      unfold Site.deleteTopic Registry.delete at hsecond
      rw [bind_apply, get_apply, hthere] at hsecond
      cases hsecond

theorem perform_ready (hr : r.commanded) (hreceive : ∀ queue group, r ≠ .receive queue group) (h : Host) :
    (perform r h).1 ≠ .pending := by
  intro hpending
  cases r with
  | sessionCount | closeSession | shutdown => cases hr
  | receive queue group => exact hreceive queue group rfl
  | createQueue | updateQueue | deleteQueue | lookupQueue | addGroup | updateGroup | deleteGroup
  | lookupGroup | getGroup | send | acknowledge | volume | audit => cases hpending

theorem records_glance {x : Operation Unit} {change : Backend → Except CollaboratorError Metadata}
    (hx : Operation.Records x change) {s : Site} {e : ServiceError} (he : (x s).1 = .error e) :
    s.Glance (x s).2 := by
  have hs := hx s
  rcases hrun : x s with ⟨e | ⟨⟩, t⟩
  · rw [hrun] at hs
    exact hs
  · rw [hrun] at he
    cases he

theorem failed_glance (hcalm : h.Calm gone) (hr : r.commanded) (hreceive : ∀ queue group, r ≠ .receive queue group)
    {e : ServiceError} (he : (perform r h).1 = .ready (.error e)) : h.site.Glance (perform r h).2.site := by
  -- An error of the request is an error of the operation, which answers with nothing else.
  have hrefused {α : Type} {x : Operation α} {answer : α → Answer}
      (hx : (atOnce answer x h).1 = .ready (.error e)) : (x h.site).1 = .error e := by
    have hmapped : (x h.site).1.map answer = .error e := Poll.ready.inj hx
    rcases hrun : (x h.site).1 with e' | a
    · rw [hrun] at hmapped
      exact congrArg Except.error (Except.error.inj hmapped)
    · rw [hrun] at hmapped
      cases hmapped
  cases r with
  | sessionCount | closeSession | shutdown => cases hr
  | receive queue group => exact absurd rfl (hreceive queue group)
  | createQueue queue =>
      have hc := Lifecycle.create_creates h.service.settings queue h.site
      rw [hrefused (x := Lifecycle.create h.service.settings queue) he] at hc
      change h.site.Glance (Lifecycle.create h.service.settings queue h.site).2
      generalize (Lifecycle.create h.service.settings queue h.site).2 = t at hc
      cases hc with
      | refused _ _ hfirst => exact hfirst.glance
      -- Without faults the second write cannot fail, so no queue is left half made.
      | stranded _ _ _ _ _ _ hfails => exact absurd hfails (provision_succeeds hcalm _ queue)
  | deleteQueue queue =>
      have hd := Lifecycle.delete_deletes h.service.settings queue h.site
      rw [hrefused (x := Lifecycle.delete h.service.settings queue) he] at hd
      change h.site.Glance (Lifecycle.delete h.service.settings queue h.site).2
      generalize (Lifecycle.delete h.service.settings queue h.site).2 = t at hd
      cases hd with
      | refused _ _ hfirst => exact hfirst.glance
      | stranded _ _ _ _ _ _ hfails => exact absurd hfails (withdraw_succeeds hcalm _ queue)
  | addGroup group queue access =>
      exact records_glance (Groups.add_records group queue access) (hrefused he)
  | updateGroup group queue access =>
      exact records_glance (Groups.update_records group queue access) (hrefused he)
  | deleteGroup group queue => exact records_glance (Groups.delete_records group queue) (hrefused he)
  | send queue group payload =>
      have hs := send_sends queue group payload h.site
      rw [hrefused (x := send queue group payload) he] at hs
      change h.site.Glance (send queue group payload h.site).2
      generalize (send queue group payload h.site).2 = t at hs
      cases hs with
      | refused _ _ ht => exact ht
  | updateQueue queue => exact Lifecycle.update_glances queue h.site
  | lookupQueue queue group => exact Lifecycle.lookup_glances queue group h.site
  | lookupGroup group => exact Groups.lookup_glances group h.site
  | getGroup group queue => exact Groups.single_glances group queue h.site
  | acknowledge => exact .refl _
  | volume direction queue group window => exact Volume.query_glances direction queue group window h.site
  | audit => exact Lifecycle.audit_glances h.site

/-- No receive has come before: no session is cached and no queue is bound. -/
structure Unused (h : Host) : Prop where
  sessions : h.service.sessions = ∅
  bindings : h.site.backend.transport.bindings = ∅

/-- What the first receive leaves at the site. -/
inductive FirstReceive (queue group : String) (s : Site) : Poll Received → Site → Prop
  | failed (e t) (ht : s.Spares t) : FirstReceive queue group s (.ready (.error e)) t
  | waits (t) (ht : s.Spares t) : FirstReceive queue group s .pending t
  | quiet (t u) (ht : s.Spares t) (hlive : s.backend.registry.topics.contains queue)
      (hu : (t.withTransport (t.backend.transport.setOffset queue group
        (t.backend.transport.offset queue group))).Spares u) : FirstReceive queue group s .pending u
  | received (payload t) : FirstReceive queue group s (.ready (.ok payload)) t

theorem FirstReceive.of_spares {queue group : String} {s t u : Site} {answer : Poll Received}
    (h : s.Spares t) (hf : FirstReceive queue group t answer u) : FirstReceive queue group s answer u := by
  cases hf with
  | failed e _ ht => exact .failed e _ (h.trans ht)
  | waits _ ht => exact .waits _ (h.trans ht)
  | quiet t u ht hlive hu => exact .quiet t _ (h.trans ht) (by rw [← h.topics]; exact hlive) hu
  | received payload _ => exact .received payload _

section Stages

variable {ticket session i : Nat} {r : Receive} {h h' : Host} {answer : Poll Received}

theorem LooksNow.firstReceive (hl : LooksNow ticket r session h answer h')
    (hi : h.site.backend.registry.incarnation? r.queue = some i)
    (hsession : h.site.backend.transport.sessions[session]? = some ⟨r.queue, r.group, false⟩)
    (hstale : h.site.backend.transport.isStale r.queue i = false) :
    FirstReceive r.queue r.group h.site answer h'.site := by
  cases hl with
  | failed e s hs => cases hs <;> exact .failed _ _ (.of_glance (.refl _))
  | received payload s t => exact .received payload t
  | quiet s hs =>
      generalize hlooked : (Except.ok none : Except CollaboratorError (Option Payload)) = looked at hs
      cases hs with
      | unknown | closed | missing => cases hlooked
      | looked c j _ hc _ hj ht =>
          rw [hsession] at hc
          cases hc
          rw [hi] at hj
          cases hj
          have hnone := (Except.ok.inj hlooked).symm
          rw [Transport.take_fst] at hnone
          rw [Transport.take_none hnone, Transport.bind_fresh hstale] at ht
          have hbound : h.site.Spares (h.site.withTransport { h.site.backend.transport with
              bindings := h.site.backend.transport.bindings.insert r.queue i }) :=
            .withTransport _ (.of_eq rfl) rfl rfl
          have hlive := Registry.live_of_incarnation hi
          exact .quiet _ s hbound hlive (.of_glance ht)

theorem Listens.firstReceive (hl : Listens ticket r session h answer h')
    (hi : h.site.backend.registry.incarnation? r.queue = some i)
    (hsession : h.site.backend.transport.sessions[session]? = some ⟨r.queue, r.group, false⟩)
    (hstale : h.site.backend.transport.isStale r.queue i = false) :
    FirstReceive r.queue r.group h.site answer h'.site := by
  have hcounted : h.site.Spares (h.site.counted .receive) := .of_glance (.counted _ _)
  cases hl with
  | struck e => exact .failed _ _ hcounted
  | looked _ _ _ hl => exact .of_spares hcounted (hl.firstReceive hi hsession hstale)

theorem Advances.firstReceive (ha : Advances ticket r h answer h') (hh : h.Unused)
    (hstage : ∀ n w, r.stage ≠ .waiting n w) : FirstReceive r.queue r.group h.site answer h'.site := by
  cases ha with
  | idle n w hwaiting | woken n w _ _ hwaiting => exact absurd hwaiting (hstage n w)
  | waits _ _ ha => cases ha <;> exact .waits _ (.of_glance (.refl _))
  | refused e h₁ _ ha =>
      cases ha with
      | refused _ s _ _ _ hs => exact .failed _ _ (.of_glance hs)
  | served a n h₁ _ _ _ ha hn hl =>
      cases ha with
      | inLine | shut | refused => simp at hn
      | found m _ _ hm =>
          rw [hh.sessions] at hm
          cases hm
      | opened i s _ _ hi hs =>
          have hn : h.site.backend.transport.sessions.length = n := by simpa using hn
          have hunbound : h.site.backend.transport.bindings.get? r.queue = none := by
            rw [hh.bindings]
            rfl
          -- The log has no topic bound yet, so binding it purges nothing and only the session is new.
          have hstale := Transport.isStale_of_unbound hunbound i
          rw [Transport.bind_fresh hstale] at hs
          have hopened : h.site.Spares s := by
            refine Spares.trans (.withTransport _ ?_ ?_ ?_) (.of_glance hs)
            · exact .trans (.of_eq rfl) (.openSession _ r.queue r.group)
            · rfl
            · rfl
          refine .of_spares hopened (hl.firstReceive (i := i) ?_ ?_ ?_)
          · exact (hopened.toTraffic.incarnation? r.queue).trans hi
          · rw [hs.transport, ← hn]
            exact List.getElem?_concat_length
          · rw [hs.transport]
            simp [Transport.isStale, Transport.openSession, withTransport]

end Stages

theorem start_firstReceive (hh : h.Unused) (queue group : String) :
    FirstReceive queue group h.site (start queue group h).1.2 (start queue group h).2.site := by
  obtain ⟨e, h', he, hrun⟩ | ⟨h₁, he, hrun⟩ := start_cases queue group h
  · rw [hrun]
    exact .failed e h'.site (.of_glance he.glance)
  · rw [hrun]
    have hunused : h₁.Unused := ⟨he.sessions.trans hh.sessions, by rw [he.glance.transport, hh.bindings]⟩
    exact .of_spares (.of_glance he.glance) ((advance_advances _ _ h₁).firstReceive hunused he.atLock)

theorem receive_firstReceive (hh : h.Unused) (queue group : String) :
    FirstReceive queue group h.site (receive queue group h).1 (receive queue group h).2.site := by
  rw [receive_answer, receive_site]
  exact start_firstReceive hh queue group

theorem FirstReceive.quiet_snapshot {queue group : String} {s t u : Site} (ht : s.Spares t)
    (hlive : s.backend.registry.topics.contains queue)
    (hu : (t.withTransport (t.backend.transport.setOffset queue group
      (t.backend.transport.offset queue group))).Spares u) :
    u.backend.snapshot = s.backend.snapshot ∨
      Transport.offset? s.backend.snapshot.offsets queue group = none ∧
        u.backend.snapshot = s.backend.snapshot.begin queue group := by
  rw [hu.snapshot, ← ht.snapshot]
  have hlive : t.backend.registry.topics.contains queue := by rw [ht.topics]; exact hlive
  have hsaved : t.backend.snapshot.offsets.get? queue = t.backend.transport.offsets.get? queue := by
    unfold Backend.snapshot
    rw [Table.get?_filterKeys, if_pos hlive]
  cases hoffset : Transport.offset? t.backend.transport.offsets queue group with
  | some n =>
      rw [Transport.setOffset_of_some hoffset]
      exact .inl rfl
  | none =>
      refine .inr ⟨by rw [Transport.offset?, hsaved]; exact hoffset, ?_⟩
      rw [Transport.offset_of_none hoffset, Snapshot.begin, Table.getD, hsaved]
      simp only [Backend.snapshot, withTransport, Transport.setOffset, Table.filterKeys_insert hlive,
        Transport.groupOffsets, Table.getD]

theorem newcomer_unused (s : Snapshot) (clock : Int64) (settings : Settings) :
    (newcomer s clock settings).Unused := ⟨rfl, rfl⟩

/-- A command that fails saves what there was before it. -/
theorem failed_snapshot (s : Snapshot) (clock : Int64) {settings : Settings} (hbrokers : settings.brokers ≠ [])
    (hr : r.commanded) (hfailed : ∀ a, (perform r (newcomer s clock settings)).1 ≠ .ready (.ok a)) :
    let k := newcomer s clock settings
    let before := k.site.backend.snapshot
    (perform r k).2.site.backend.snapshot = before ∨
      ∃ queue group, r = .receive queue group ∧ (perform r k).1 = .pending ∧
        Transport.offset? before.offsets queue group = none ∧
        (perform r k).2.site.backend.snapshot = before.begin queue group := by
  intro k before
  by_cases hreceive : ∃ queue group, r = .receive queue group
  · obtain ⟨queue, group, rfl⟩ := hreceive
    have hf := receive_firstReceive (newcomer_unused s clock settings) queue group
    have hperform : perform (.receive queue group) k =
        ((receive queue group k).1.map (·.map .payload), (receive queue group k).2) := rfl
    rw [hperform] at hfailed ⊢
    generalize receive queue group k = out at hf hfailed ⊢
    rcases out with ⟨answer, h'⟩
    cases hf with
    | failed _ _ ht | waits _ ht => exact .inl ht.snapshot
    -- A receive that finds nothing has still begun its group at the offset 0.
    | quiet t _ ht hlive hu =>
        exact (FirstReceive.quiet_snapshot ht hlive hu).imp_right fun hnew => ⟨queue, group, rfl, rfl, hnew⟩
    | received payload => exact absurd rfl (hfailed (.payload payload))
  · left
    have hcalm : k.Calm (fun _ => False) := (newcomer_idle s clock hbrokers).calm
    rcases hanswer : (perform r k).1 with _ | e | a
    · exact absurd hanswer (perform_ready hr (fun queue group hq => hreceive ⟨queue, group, hq⟩) k)
    · have hglance := failed_glance hcalm hr (fun queue group hq => hreceive ⟨queue, group, hq⟩) hanswer
      exact (Spares.of_glance hglance).snapshot
    · exact absurd hanswer (hfailed a)

end Host

end ManagedQueue
