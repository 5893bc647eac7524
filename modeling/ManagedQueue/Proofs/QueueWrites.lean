import ManagedQueue.Proofs.Footprints
import ManagedQueue.Table.Lemmas

namespace ManagedQueue

inductive Standing where
  | absent
  | both
  | metadataOnly
  | brokerOnly
deriving DecidableEq

def Standing.of : (recorded topic : Bool) → Standing
  | false, false => .absent
  | true, true => .both
  | true, false => .metadataOnly
  | false, true => .brokerOnly

def Backend.standing (b : Backend) (queue : String) : Standing :=
  .of (b.metadata.exist queue) (b.registry.topics.contains queue)

theorem Backend.standing_eq_absent {b : Backend} {queue : String} : b.standing queue = .absent ↔
    b.metadata.exist queue = false ∧ b.registry.topics.contains queue = false := by
  unfold standing
  cases b.metadata.exist queue <;> cases b.registry.topics.contains queue <;> simp [Standing.of]

theorem Backend.standing_eq_both {b : Backend} {queue : String} : b.standing queue = .both ↔
    b.metadata.exist queue = true ∧ b.registry.topics.contains queue = true := by
  unfold standing
  cases b.metadata.exist queue <;> cases b.registry.topics.contains queue <;> simp [Standing.of]

theorem Backend.standing_eq {b c : Backend} {queue : String}
    (hmetadata : c.metadata.exist queue = b.metadata.exist queue)
    (htopics : c.registry.topics.contains queue = b.registry.topics.contains queue) :
    c.standing queue = b.standing queue := by
  simp only [standing, hmetadata, htopics]

theorem Registry.exist_forced (r : Registry) (name : String) :
    r.exist name true = (r.topics.contains name, r.refresh) := by
  have h : r.topics.keys.contains name = r.topics.contains name := by
    rw [Bool.eq_iff_iff, List.contains_iff_mem, Table.contains_iff_mem_keys]
  simp only [exist, refresh, Bool.not_true, Bool.false_and, Bool.false_eq_true, if_false, h]

theorem Registry.create_congr {r q r' : Registry} (htopics : q.topics = r.topics)
    (hnext : q.nextIncarnation = r.nextIncarnation) {name : String} {layout : Layout}
    (h : q.create name layout = .ok r') : ∃ s, r.create name layout = .ok s ∧
      r'.topics = s.topics ∧ r'.nextIncarnation = s.nextIncarnation := by
  unfold create at h
  rw [htopics, hnext] at h
  split at h
  · cases h
  · next hc =>
    cases h
    exact ⟨_, if_neg hc, rfl, rfl⟩

theorem Registry.delete_congr {r q r' : Registry} (htopics : q.topics = r.topics)
    (hnext : q.nextIncarnation = r.nextIncarnation) {name : String} (h : q.delete name = .ok r') :
    ∃ s, r.delete name = .ok s ∧ r'.topics = s.topics ∧ r'.nextIncarnation = s.nextIncarnation := by
  unfold delete at h
  rw [htopics] at h
  split at h
  · next hc =>
    cases h
    exact ⟨_, if_pos hc, rfl, hnext⟩
  · cases h

namespace Operation

theorem topicExists_cases (operation queue : String) (s : Site) :
    (∃ e, s.struck .existTopic = some e ∧ topicExists .strict operation queue s =
      (.error (.collaborator operation queue none e), s.counted .existTopic)) ∨
    ∃ t, s.Glance t ∧ (∀ c, c ≠ .existTopic → t.struck c = s.struck c) ∧
      topicExists .strict operation queue s = (.ok (s.backend.registry.topics.contains queue), t) := by
  unfold topicExists
  rw [ask_run]
  cases h : s.struck .existTopic with
  | some e => exact .inl ⟨e, rfl, rfl⟩
  | none =>
      refine .inr ⟨(Site.existTopic queue true (s.counted .existTopic)).2, ?_, ?_, ?_⟩
      · exact (Site.Glance.counted s _).trans (Site.existTopic_glance queue true _)
      · exact fun c hc => Site.struck_counted hc
      · have hfound := congrArg Prod.fst (Registry.exist_forced s.backend.registry queue)
        exact congrArg (fun b => (Except.ok b, _)) hfound

theorem requireTopic_cases (operation queue : String) (s : Site) :
    (∃ e, s.struck .existTopic = some e ∧ requireTopic .strict operation queue s =
      (.error (.collaborator operation queue none e), s.counted .existTopic)) ∨
    ∃ t, s.Glance t ∧ (∀ c, c ≠ .existTopic → t.struck c = s.struck c) ∧
      requireTopic .strict operation queue s =
        (if s.backend.registry.topics.contains queue then .ok ()
          else .error (.notFound operation queue none), t) := by
  unfold requireTopic
  obtain ⟨e, he, hr⟩ | ⟨t, ht, hstruck, hr⟩ := topicExists_cases operation queue s
  · exact .inl ⟨e, he, bind_of_error hr _⟩
  · refine .inr ⟨t, ht, hstruck, ?_⟩
    rw [bind_of_ok hr]
    split <;> rfl

theorem queueRecorded_cases (operation queue : String) (s : Site) :
    (∃ e, s.struck .existQueue = some e ∧ queueRecorded operation queue s =
      (.error (.collaborator operation queue none e), s.counted .existQueue)) ∨
    ∃ t, s.Glance t ∧ (∀ c, c ≠ .existQueue → t.struck c = s.struck c) ∧
      queueRecorded operation queue s = (.ok (s.backend.metadata.exist queue), t) := by
  unfold queueRecorded
  rw [ask_run]
  cases h : s.struck .existQueue with
  | some e => exact .inl ⟨e, rfl, rfl⟩
  | none => exact .inr ⟨s.counted .existQueue, .counted s _, fun c hc => Site.struck_counted hc, rfl⟩

end Operation

namespace Lifecycle

open Operation

inductive RecordsNew (queue : String) (s : Site) : Except ServiceError Unit → Site → Prop
  | invalid (fault) (hname : nameFault? queue = some fault) :
      RecordsNew queue s (.error (.invalidArgument (fault.message "Queue" queue))) s
  | struck (c e t) (hname : nameFault? queue = none) (he : s.struck c = some e) (ht : s.Glance t) :
      RecordsNew queue s (.error (.collaborator "CreateQueue" queue none e)) t
  | taken (t) (hname : nameFault? queue = none) (hs : s.backend.standing queue ≠ .absent)
      (ht : s.Glance t) : RecordsNew queue s (.error (.alreadyExists "CreateQueue" queue)) t
  | recorded (m t) (hname : nameFault? queue = none) (hs : s.backend.standing queue = .absent)
      (hm : s.backend.metadata.addQueue queue s.backend.clock = .ok m)
      (ht : (s.withMetadata m).Glance t) : RecordsNew queue s (.ok ()) t

theorem RecordsNew.glance {queue : String} {s t : Site} {e : ServiceError}
    (h : RecordsNew queue s (.error e) t) : s.Glance t := by
  cases h with
  | invalid => exact .refl s
  | struck _ _ _ _ _ ht => exact ht
  | taken _ _ _ ht => exact ht

theorem addQueue_recordsNew {queue : String} {s t : Site} (hname : nameFault? queue = none)
    (hs : s.backend.standing queue = .absent) (ht : s.Glance t)
    (hstruck : t.struck .addQueue = s.struck .addQueue) :
    let first := call .addQueue (.collaborator "CreateQueue" queue none) (Site.addQueue queue)
    RecordsNew queue s (first t).1 (first t).2 := by
  intro first
  obtain ⟨e, u, he, hu, hr⟩ | ⟨m, u, hm, hu, hr⟩ := write_glanced ht hstruck
    (.collaborator "CreateQueue" queue none) (fun b => b.metadata.addQueue queue b.clock)
    (by rw [ht.metadata, ht.clock])
  · change first t = _ at hr
    rw [hr]
    rcases he with he | he
    · exact .struck _ e u hname he hu
    · simp [Metadata.addQueue, (Backend.standing_eq_absent.mp hs).1] at he
  · change first t = _ at hr
    rw [hr]
    exact .recorded m u hname hs hm hu

theorem recordNew_recordsNew (queue : String) (s : Site) :
    RecordsNew queue s (recordNew queue s).1 (recordNew queue s).2 := by
  unfold recordNew requireName
  cases hname : nameFault? queue with
  | some fault => exact .invalid fault hname
  | none =>
      rw [bind_of_ok (x := pure ()) rfl]
      obtain ⟨e, he, hr⟩ | ⟨t, ht, hstruck, hr⟩ := topicExists_cases "CreateQueue" queue s
      · rw [bind_of_error hr]
        exact .struck _ e _ hname he (.counted s _)
      · rw [bind_of_ok hr]
        cases hc : s.backend.registry.topics.contains queue with
        | true => exact .taken t hname (fun h => by simp [(Backend.standing_eq_absent.mp h).2] at hc) ht
        | false =>
            obtain ⟨e, he, hr⟩ | ⟨u, hu, hstruck', hr⟩ := queueRecorded_cases "CreateQueue" queue t
            · change RecordsNew queue s ((queueRecorded _ _ >>= _) t).1 ((queueRecorded _ _ >>= _) t).2
              rw [bind_of_error hr]
              exact .struck _ e _ hname (hstruck .existQueue (by decide) ▸ he) (ht.trans (.counted t _))
            · change RecordsNew queue s ((queueRecorded _ _ >>= _) t).1 ((queueRecorded _ _ >>= _) t).2
              rw [bind_of_ok hr, ht.metadata]
              -- The look at the topics has left the metadata and the later faults as they were.
              cases hm : s.backend.metadata.exist queue with
              | true =>
                  refine .taken u hname (fun h => ?_) (ht.trans hu)
                  simp [(Backend.standing_eq_absent.mp h).1] at hm
              | false =>
                  apply addQueue_recordsNew hname (Backend.standing_eq_absent.mpr ⟨hm, hc⟩) (ht.trans hu)
                  rw [hstruck' _ (by decide), hstruck _ (by decide)]

inductive Unrecords (queue : String) (s : Site) : Except ServiceError Unit → Site → Prop
  | invalid (fault) (hname : nameFault? queue = some fault) :
      Unrecords queue s (.error (.invalidArgument (fault.message "Queue" queue))) s
  | struck (c e t) (hname : nameFault? queue = none) (he : s.struck c = some e) (ht : s.Glance t) :
      Unrecords queue s (.error (.collaborator "DeleteQueue" queue none e)) t
  | missing (t) (hname : nameFault? queue = none) (hs : s.backend.standing queue ≠ .both)
      (ht : s.Glance t) : Unrecords queue s (.error (.notFound "DeleteQueue" queue none)) t
  | removed (m t) (hname : nameFault? queue = none) (hs : s.backend.standing queue = .both)
      (hm : s.backend.metadata.deleteQueue queue = .ok m) (ht : (s.withMetadata m).Glance t) :
      Unrecords queue s (.ok ()) t

theorem Unrecords.glance {queue : String} {s t : Site} {e : ServiceError}
    (h : Unrecords queue s (.error e) t) : s.Glance t := by
  cases h with
  | invalid => exact .refl s
  | struck _ _ _ _ _ ht => exact ht
  | missing _ _ _ ht => exact ht

theorem deleteQueue_unrecords {queue : String} {s t : Site} (hname : nameFault? queue = none)
    (hs : s.backend.standing queue = .both) (ht : s.Glance t)
    (hstruck : t.struck .deleteQueue = s.struck .deleteQueue) :
    let first := call .deleteQueue (.collaborator "DeleteQueue" queue none) (Site.deleteQueue queue)
    Unrecords queue s (first t).1 (first t).2 := by
  intro first
  obtain ⟨e, u, he, hu, hr⟩ | ⟨m, u, hm, hu, hr⟩ := write_glanced ht hstruck
    (.collaborator "DeleteQueue" queue none) (fun b => b.metadata.deleteQueue queue)
    (by rw [ht.metadata])
  · change first t = _ at hr
    rw [hr]
    rcases he with he | he
    · exact .struck _ e u hname he hu
    · simp [Metadata.deleteQueue, (Backend.standing_eq_both.mp hs).1] at he
  · change first t = _ at hr
    rw [hr]
    exact .removed m u hname hs hm hu

theorem unrecord_unrecords (queue : String) (s : Site) :
    Unrecords queue s (unrecord queue s).1 (unrecord queue s).2 := by
  unfold unrecord requireName
  cases hname : nameFault? queue with
  | some fault => exact .invalid fault hname
  | none =>
      rw [bind_of_ok (x := pure ()) rfl]
      obtain ⟨e, he, hr⟩ | ⟨t, ht, hstruck, hr⟩ := requireTopic_cases "DeleteQueue" queue s
      · rw [bind_of_error hr]
        exact .struck _ e _ hname he (.counted s _)
      · rw [bind_run, hr]
        cases hc : s.backend.registry.topics.contains queue with
        | false =>
            exact .missing t hname (fun h => by simp [(Backend.standing_eq_both.mp h).2] at hc) ht
        | true =>
            change Unrecords queue s ((queueRecorded _ _ >>= _) t).1 ((queueRecorded _ _ >>= _) t).2
            obtain ⟨e, he, hr⟩ | ⟨u, hu, hstruck', hr⟩ := queueRecorded_cases "DeleteQueue" queue t
            · rw [bind_of_error hr]
              exact .struck _ e _ hname (hstruck .existQueue (by decide) ▸ he) (ht.trans (.counted t _))
            · rw [bind_of_ok hr, ht.metadata]
              have hsu := ht.trans hu
              cases hm : s.backend.metadata.exist queue with
              | false =>
                  exact .missing u hname (fun h => by simp [(Backend.standing_eq_both.mp h).1] at hm) hsu
              | true =>
                  apply deleteQueue_unrecords hname (Backend.standing_eq_both.mpr ⟨hm, hc⟩) hsu
                  rw [hstruck' _ (by decide), hstruck _ (by decide)]

/-- A task of the registry makes this change or reports why it cannot. -/
def Registers (task : Task (Except CollaboratorError Unit))
    (change : Registry → Except CollaboratorError Registry) : Prop :=
  ∀ s, match task s with
    | (.ok (), t) => ∃ r, change s.backend.registry = .ok r ∧ (s.withRegistry r).Glance t
    | (.error e, t) => change s.backend.registry = .error e ∧ s.Glance t

theorem createTopic_registers (name : String) (layout : Layout) (address : String) :
    Registers (Site.createTopic name layout address) (·.create name layout) := by
  intro s
  unfold Site.createTopic
  rw [bind_apply, get_apply]
  cases hr : s.backend.registry.create name layout with
  | error e => exact ⟨hr, .refl s⟩
  | ok r => exact ⟨r, hr, .note _ (by decide) _ _⟩

theorem deleteTopic_registers (name address : String) :
    Registers (Site.deleteTopic name address) (·.delete name) := by
  intro s
  unfold Site.deleteTopic
  rw [bind_apply, get_apply]
  cases hr : s.backend.registry.delete name with
  | error e => exact ⟨hr, .refl s⟩
  | ok r => exact ⟨r, hr, .note _ (by decide) _ _⟩

inductive WritesTopics (op queue : String) (change : Registry → Except CollaboratorError Registry)
    (answer : Except CollaboratorError Unit) (s : Site) : Except ServiceError Unit → Site → Prop
  | failed (e t text) (he : answer = .error e) (ht : s.Glance t) :
      WritesTopics op queue change answer s (.error (.collaborator op queue none e))
        (Site.note .error .lifecycle text t).2
  | written (r t) (he : answer = .ok ()) (hr : change s.backend.registry = .ok r)
      (ht : (s.withRegistry r).Glance t) : WritesTopics op queue change answer s (.ok ()) t

theorem secondWrite_writesTopics (c : Call) (op queue : String)
    {task : Task (Except CollaboratorError Unit)} {change : Registry → Except CollaboratorError Registry}
    (htask : Registers task change) (complaint : CollaboratorError → String) (report : String) (s : Site) :
    WritesTopics op queue change (attempt c task s).1 s
      (secondWrite c op queue task complaint report s).1
      (secondWrite c op queue task complaint report s).2 := by
  have hrun : secondWrite c op queue task complaint report s = match attempt c task s with
      | (.error e, t) =>
          (.error (.collaborator op queue none e), (Site.note .error .lifecycle (complaint e) t).2)
      | (.ok (), t) => (.ok (), (Site.note .info .lifecycle report t).2) := by
    unfold secondWrite
    rw [lift_bind_run]
    rcases attempt c task s with ⟨_ | ⟨⟩, t⟩ <;> rfl
  rw [hrun, attempt_run]
  cases s.struck c with
  | some e => exact .failed e _ _ rfl (.counted s c)
  | none =>
      have ht := htask (s.counted c)
      rcases hr : task (s.counted c) with ⟨e | ⟨⟩, t⟩
      · rw [hr] at ht
        exact .failed e t _ rfl ((Site.Glance.counted s c).trans ht.2)
      · rw [hr] at ht
        obtain ⟨r, hchange, ht⟩ := ht
        have hs : (s.withRegistry r).Glance ((s.counted c).withRegistry r) :=
          (Site.Glance.counted s c).withRegistry rfl rfl
        exact .written r _ rfl hchange ((hs.trans ht).trans (.note t (by decide) _ _))

/-- The second call is made only after the first part, and from the site that it leaves. -/
theorem not_fails {first : Operation Unit} {c : Call} {task : Task (Except CollaboratorError Unit)}
    {s t : Site} (hfirst : first s = (.ok (), t)) (hcall : (attempt c task t).1 = .ok ()) :
    ¬ ∃ u e, first s = (.ok (), u) ∧ (attempt c task u).1 = .error e := by
  rintro ⟨u, e, hu, he⟩
  rw [hfirst] at hu
  cases hu
  rw [hcall] at he
  cases he

theorem not_fails_of_error {first : Operation Unit} {c : Call}
    {task : Task (Except CollaboratorError Unit)} {s t : Site} {e : ServiceError}
    (hfirst : first s = (.error e, t)) :
    ¬ ∃ u e, first s = (.ok (), u) ∧ (attempt c task u).1 = .error e := by
  rintro ⟨u, e', hu, -⟩
  rw [hfirst] at hu
  cases hu

/-- The metadata store has the new queue, and the broker fails to make its topic. -/
def ProvisionFails (settings : Settings) (queue : String) (s : Site) : Prop :=
  ∃ t e, recordNew queue s = (.ok (), t) ∧ (attempt .createTopic
    (Site.createTopic queue settings.layout settings.registryAddress) t).1 = .error e

/-- The metadata store has dropped the queue, and the broker fails to delete its topic. -/
def WithdrawFails (settings : Settings) (queue : String) (s : Site) : Prop :=
  ∃ t e, unrecord queue s = (.ok (), t) ∧
    (attempt .deleteTopic (Site.deleteTopic queue settings.registryAddress) t).1 = .error e

inductive Creates (settings : Settings) (queue : String) (s : Site) :
    Except ServiceError Unit → Site → Prop
  | refused (e t) (h : RecordsNew queue s (.error e) t) (hcall : ¬ ProvisionFails settings queue s) :
      Creates settings queue s (.error e) t
  | stranded (m e t text) (hs : s.backend.standing queue = .absent)
      (hm : s.backend.metadata.addQueue queue s.backend.clock = .ok m)
      (hcall : ProvisionFails settings queue s) (ht : (s.withMetadata m).Glance t) :
      Creates settings queue s (.error (.collaborator "CreateQueue" queue none e))
        (Site.note .error .lifecycle text t).2
  | created (m r t) (hs : s.backend.standing queue = .absent)
      (hm : s.backend.metadata.addQueue queue s.backend.clock = .ok m)
      (hcall : ¬ ProvisionFails settings queue s)
      (hr : s.backend.registry.create queue settings.layout = .ok r)
      (ht : ((s.withMetadata m).withRegistry r).Glance t) : Creates settings queue s (.ok ()) t

theorem create_creates (settings : Settings) (queue : String) (s : Site) :
    Creates settings queue s (create settings queue s).1 (create settings queue s).2 := by
  have hfirst := recordNew_recordsNew queue s
  unfold create
  rw [Operation.bind_run]
  rcases hr : recordNew queue s with ⟨e | ⟨⟩, t⟩
  · rw [hr] at hfirst
    exact .refused e t hfirst (not_fails_of_error hr)
  · rw [hr] at hfirst
    cases hfirst with
    | recorded m _ hname hs hm ht =>
        have hsecond : WritesTopics "CreateQueue" queue (·.create queue settings.layout) _ t
            (provision settings queue t).1 (provision settings queue t).2 :=
          secondWrite_writesTopics .createTopic "CreateQueue" queue
            (createTopic_registers queue settings.layout settings.registryAddress) _ _ t
        change Creates settings queue s (provision settings queue t).1 (provision settings queue t).2
        generalize provision settings queue t = out at hsecond ⊢
        rcases out with ⟨answer, u⟩
        cases hsecond with
        | failed e u text he hu => exact .stranded m e u text hs hm ⟨t, e, hr, he⟩ (ht.trans hu)
        | written q u he hq hu =>
            obtain ⟨r, hcreate, htopics, hnext⟩ := Registry.create_congr ht.topics ht.nextIncarnation hq
            exact .created m r u hs hm (not_fails hr he) hcreate ((ht.withRegistry htopics hnext).trans hu)

inductive Deletes (settings : Settings) (queue : String) (s : Site) :
    Except ServiceError Unit → Site → Prop
  | refused (e t) (h : Unrecords queue s (.error e) t) (hcall : ¬ WithdrawFails settings queue s) :
      Deletes settings queue s (.error e) t
  | stranded (m e t text) (hs : s.backend.standing queue = .both)
      (hm : s.backend.metadata.deleteQueue queue = .ok m)
      (hcall : WithdrawFails settings queue s) (ht : (s.withMetadata m).Glance t) :
      Deletes settings queue s (.error (.collaborator "DeleteQueue" queue none e))
        (Site.note .error .lifecycle text t).2
  | deleted (m r t) (hs : s.backend.standing queue = .both)
      (hm : s.backend.metadata.deleteQueue queue = .ok m)
      (hcall : ¬ WithdrawFails settings queue s) (hr : s.backend.registry.delete queue = .ok r)
      (ht : ((s.withMetadata m).withRegistry r).Glance t) : Deletes settings queue s (.ok ()) t

theorem delete_deletes (settings : Settings) (queue : String) (s : Site) :
    Deletes settings queue s (delete settings queue s).1 (delete settings queue s).2 := by
  have hfirst := unrecord_unrecords queue s
  unfold delete
  rw [Operation.bind_run]
  rcases hr : unrecord queue s with ⟨e | ⟨⟩, t⟩
  · rw [hr] at hfirst
    exact .refused e t hfirst (not_fails_of_error hr)
  · rw [hr] at hfirst
    cases hfirst with
    | removed m _ hname hs hm ht =>
        have hsecond : WritesTopics "DeleteQueue" queue (·.delete queue) _ t
            (withdraw settings queue t).1 (withdraw settings queue t).2 :=
          secondWrite_writesTopics .deleteTopic "DeleteQueue" queue
            (deleteTopic_registers queue settings.registryAddress) _ _ t
        change Deletes settings queue s (withdraw settings queue t).1 (withdraw settings queue t).2
        generalize withdraw settings queue t = out at hsecond ⊢
        rcases out with ⟨answer, u⟩
        cases hsecond with
        | failed e u text he hu => exact .stranded m e u text hs hm ⟨t, e, hr, he⟩ (ht.trans hu)
        | written q u he hq hu =>
            obtain ⟨r, hdelete, htopics, hnext⟩ := Registry.delete_congr ht.topics ht.nextIncarnation hq
            exact .deleted m r u hs hm (not_fails hr he) hdelete ((ht.withRegistry htopics hnext).trans hu)

end Lifecycle

end ManagedQueue
