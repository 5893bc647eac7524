import ManagedQueue.Proofs.QueueStanding
import ManagedQueue.Proofs.RecordViews

namespace ManagedQueue

open Operation

/-- The service does this by itself, and the indexes are left to the store of records. -/
def Event.ofRecords : Event → Bool
  | .condition (.drift _ _) => false
  | e => e.ofService

theorem Groups.checkNames_ok {op group queue : String} {s t : Site}
    (h : checkNames op group queue s = (.ok (), t)) :
    nameFault? group = none ∧ nameFault? queue = none := by
  unfold checkNames at h
  rcases hg : requireName "Group" group s with ⟨e | ⟨⟩, u⟩
  · rw [bind_of_error hg] at h
    cases h
  · rw [bind_of_ok hg] at h
    rcases hq : requireName "Queue" queue u with ⟨e | ⟨⟩, v⟩
    · rw [bind_of_error hq] at h
      cases h
    · exact ⟨requireName_ok hg, requireName_ok hq⟩

theorem Groups.single_ok {group queue : String} {s : Site} {c : Option GroupConfig}
    (h : (single group queue s).1 = .ok c) : nameFault? group = none ∧ nameFault? queue = none := by
  unfold single at h
  rcases hcheck : checkNames "GetSingleGroup" group queue s with ⟨e | ⟨⟩, t⟩
  · rw [bind_of_error hcheck] at h
    cases h
  · exact checkNames_ok hcheck

theorem AccessWrite.names_of_ok (w : AccessWrite) {group queue : String} {s : Site}
    (h : (w.perform group queue s).1 = .ok ()) : nameFault? group = none ∧ nameFault? queue = none := by
  obtain ⟨report, hperform⟩ := w.perform_eq group queue
  rw [hperform] at h
  rcases hcheck : Groups.checkNames w.operation group queue s with ⟨e | ⟨⟩, t⟩
  · rw [bind_of_error hcheck] at h
    cases h
  · exact Groups.checkNames_ok hcheck

namespace Lifecycle

theorem create_drift (settings : Settings) (queue : String) (s : Site) :
    (create settings queue s).2.drift = s.drift := by
  have hc := create_creates settings queue s
  generalize create settings queue s = out at hc ⊢
  rcases out with ⟨answer, t⟩
  cases hc with
  | refused _ _ hfirst => exact hfirst.glance.drift
  | stranded _ _ _ _ _ _ _ ht => exact ht.drift
  | created _ _ _ _ _ _ _ ht => exact ht.drift

theorem delete_drift (settings : Settings) (queue : String) (s : Site) :
    (delete settings queue s).2.drift = s.drift := by
  have hd := delete_deletes settings queue s
  generalize delete settings queue s = out at hd ⊢
  rcases out with ⟨answer, t⟩
  cases hd with
  | refused _ _ hfirst => exact hfirst.glance.drift
  | stranded _ _ _ _ _ _ _ ht => exact ht.drift
  | deleted _ _ _ _ _ _ _ ht => exact ht.drift

end Lifecycle

theorem Operation.Records.drift {x : Operation Unit} {change : Backend → Except CollaboratorError Metadata}
    (hx : Records x change) (s : Site) : (x s).2.drift = s.drift := by
  have hrun := hx s
  rcases hr : x s with ⟨e | ⟨⟩, t⟩
  · rw [hr] at hrun
    exact hrun.drift
  · rw [hr] at hrun
    obtain ⟨m, -, ht⟩ := hrun
    exact ht.drift

namespace Host

theorem perform_drift (r : Request) (h : Host) : (perform r h).2.site.drift = h.site.drift := by
  have hquiet (q : Request) (hq : q.writes = false) : (perform q h).2.site.drift = h.site.drift :=
    (perform_moves hq h).traffic.drift
  cases r with
  | createQueue queue => exact Lifecycle.create_drift h.service.settings queue h.site
  | deleteQueue queue => exact Lifecycle.delete_drift h.service.settings queue h.site
  | addGroup group queue access => exact (Groups.add_records group queue access).drift h.site
  | updateGroup group queue access => exact (Groups.update_records group queue access).drift h.site
  | deleteGroup group queue => exact (Groups.delete_records group queue).drift h.site
  | updateQueue | lookupQueue | lookupGroup | getGroup | send | receive | acknowledge | volume | audit
  | sessionCount | closeSession | shutdown => exact hquiet _ rfl

theorem step_drift {e : Event} (he : e.ofRecords) (h : Host) : (step e h).2.site.drift = h.site.drift := by
  cases e with
  | request r => exact perform_drift r h
  | start queue group => exact (start_moves queue group h).traffic.drift
  | poll ticket =>
      rw [step_poll]
      exact (poll_moves ticket h).traffic.drift
  | cancel ticket => exact (cancel_moves ticket h).traffic.drift
  | direct d => cases he
  | condition c =>
      cases c with
      | drift => cases he
      | clock | fault | heal | gate => rfl

theorem put_valid {e : Event} (he : e.ofRecords) {h : Host} {r : GroupRecord}
    (hr : .put r ∈ recordChanges e h) : nameFault? r.group = none ∧ nameFault? r.queue = none := by
  have hwrite (w : AccessWrite) (group queue : String) (c : RecordChange)
      (hc : .put r ∈ ifDone ((w.perform group queue h.site).1.map fun _ => Answer.done) c) :
      c = .put r ∧ nameFault? group = none ∧ nameFault? queue = none := by
    rw [ifDone_map] at hc
    rcases hanswer : (w.perform group queue h.site).1 with e | ⟨⟩
    · rw [hanswer] at hc
      cases hc
    · rw [hanswer] at hc
      exact ⟨(List.mem_singleton.mp hc).symm, w.names_of_ok hanswer⟩
  -- The changes that are no write of a record are not a put, whatever the answer.
  have hother (answer : Except ServiceError Unit) {c : RecordChange} (hc : ∀ q, c ≠ .put q) :
      ¬ RecordChange.put r ∈ ifDone answer c := by
    cases answer with
    | error e => exact List.not_mem_nil
    | ok _ => exact fun hmem => hc r (List.mem_singleton.mp hmem).symm
  cases e with
  | request q =>
      cases q with
      | createQueue queue => exact absurd hr (hother _ (by simp))
      | deleteQueue queue => exact absurd hr (hother _ (by simp))
      | addGroup group queue access =>
          obtain ⟨hput, hnames⟩ := hwrite (.add access) group queue _ hr
          cases hput
          exact hnames
      | updateGroup group queue access =>
          obtain ⟨hput, hnames⟩ := hwrite (.update access) group queue _ hr
          cases hput
          exact hnames
      | deleteGroup group queue =>
          obtain ⟨hput, -⟩ := hwrite .delete group queue _ hr
          cases hput
      | updateQueue | lookupQueue | lookupGroup | getGroup | send | receive | acknowledge | volume | audit
      | sessionCount | closeSession | shutdown => cases hr
  | direct d => cases he
  | start | poll | cancel | condition => cases hr

theorem steps_drift {es : List Event} (hes : ∀ e ∈ es, e.ofRecords) (h : Host) :
    (steps es h).2.site.drift = h.site.drift := by
  induction es generalizing h with
  | nil => rfl
  | cons e es ih => exact (ih (fun a ha => hes a (.tail _ ha)) _).trans (step_drift (hes e (.head _)) h)

theorem chronicle_put_valid {es : List Event} (hes : ∀ e ∈ es, e.ofRecords) {h : Host} {r : GroupRecord}
    (hr : .put r ∈ chronicle recordChanges es h) :
    nameFault? r.group = none ∧ nameFault? r.queue = none := by
  induction es generalizing h with
  | nil => cases hr
  | cons e es ih =>
      obtain hfirst | hlater := List.mem_append.mp hr
      · exact put_valid (hes e (.head _)) hfirst
      · exact ih (fun a ha => hes a (.tail _ ha)) hlater

end Host

theorem granted_eq_some {group queue : String} {H : List RecordChange} {r : GroupRecord}
    (h : granted group queue H = some r) : .put r ∈ H ∧ r.group = group ∧ r.queue = queue := by
  obtain ⟨c, hlast, hrecord⟩ := Option.bind_eq_some_iff.mp h
  obtain ⟨hmem, hsettles⟩ := List.mem_filter.mp (List.mem_of_getLast? hlast)
  cases c with
  | put q =>
      cases hrecord
      exact ⟨hmem, of_decide_eq_true hsettles⟩
  | made | dropped | revoked => cases hrecord

namespace Host

theorem steps_filed (settings : Settings) (clock : Int64) (site : Site) {es : List Event}
    (hes : ∀ e ∈ es, e.ofRecords) :
    (steps es ⟨{ site with backend := .fresh clock }, { settings }⟩).2.site.backend.metadata.Filed := by
  intro group queue r hr
  rw [(chronicle_records settings clock site es).1] at hr
  obtain ⟨hput, rfl, rfl⟩ := granted_eq_some hr
  exact ⟨rfl, rfl, chronicle_put_valid hes hput⟩

/-- The request is answered so, or fails because a failure is planned. -/
def Tells (h : Host) (r : Request) (a : Answer) : Prop :=
  (perform r h).1 = .ready (.ok a) ∨ h.site.Faulty ∧ ∃ e, (perform r h).1 = .ready (.error e)

theorem tells_of_operation {h : Host} {m : Metadata} {topics : NameMap Topic} (hs : h.site.Shows m topics)
    {α : Type} {x : Operation α} {a : α} (hx : Operation.Tells m topics x a) (answer : α → Answer) :
    (atOnce answer x h).1 = .ready (.ok (answer a)) ∨
      h.site.Faulty ∧ ∃ e, (atOnce answer x h).1 = .ready (.error e) := by
  have hrun : (atOnce answer x h).1 = .ready ((x h.site).1.map answer) := rfl
  obtain ⟨-, -, hok | ⟨hfaulty, e, herror⟩⟩ := hx h.site hs
  · exact .inl (by rw [hrun, hok]; rfl)
  · exact .inr ⟨hfaulty, e, by rw [hrun, herror]; rfl⟩

theorem single_of_getGroup {h : Host} {group queue : String} {c : Option GroupConfig}
    (hanswer : (perform (.getGroup group queue) h).1 = .ready (.ok (.group c))) :
    (Groups.single group queue h.site).1 = .ok c := by
  change Poll.ready ((Groups.single group queue h.site).1.map Answer.group) = _ at hanswer
  rcases hrun : (Groups.single group queue h.site).1 with e | found
  · rw [hrun] at hanswer
    cases hanswer
  · rw [hrun] at hanswer
    cases hanswer
    rfl

/-- In every run of the service by itself from an empty backend, with any failures on the way, there are
listings of queues and of groups that all its readings show, as long as no call of theirs fails: in whole,
one entry of them, or of a queue's entry one group. The listings have each recorded queue and each group
with a record once, in ascending order. They show the same records, each under its context and without
the name of it, and these are the ones that are given out singly for queues with a topic. -/
theorem record_views_agree (settings : Settings) (clock : Int64) (site : Site) {es : List Event}
    (hes : ∀ e ∈ es, e.ofRecords) :
    let h := (steps es ⟨{ site with backend := .fresh clock, drift := [] }, { settings }⟩).2
    let m := h.site.backend.metadata
    ∃ (queues : List QueueInfo) (groups : List GroupInfo),
      (∀ group, h.Tells (.lookupQueue "" group) (.queues queues)) ∧
      (∀ queue, queue ≠ "" →
        h.Tells (.lookupQueue queue "") (.queues (queues.filter (·.queue = queue)))) ∧
      (∀ queue group, queue ≠ "" → group ≠ "" → h.Tells (.lookupQueue queue group)
        (.queues ((queues.filter (·.queue = queue)).map (QueueInfo.only group)))) ∧
      h.Tells (.lookupGroup "") (.groups groups) ∧
      (∀ group, group ≠ "" →
        h.Tells (.lookupGroup group) (.groups (groups.filter (·.group = group)))) ∧
      (queues.map (·.queue)).Pairwise (· < ·) ∧
      (∀ queue, queue ∈ queues.map (·.queue) ↔ m.exist queue) ∧
      (groups.map (·.group)).Pairwise (· < ·) ∧
      (∀ group, group ∈ groups.map (·.group) ↔ ∃ queue, (m.record? group queue).isSome) ∧
      (∀ info ∈ queues, ∃ rs : List GroupRecord, info.groups = rs.map (·.underQueue) ∧
        (∀ r ∈ rs, r.queue = info.queue) ∧ (rs.map (·.group)).Pairwise (· < ·)) ∧
      (∀ info ∈ groups, ∃ rs : List GroupRecord, info.queues = rs.map (·.underGroup) ∧
        (∀ r ∈ rs, r.group = info.group) ∧ (rs.map (·.queue)).Pairwise (· < ·)) ∧
      (∀ r : GroupRecord, r.AtQueue queues ↔ r.AtGroup groups) ∧
      ∀ r : GroupRecord, h.site.backend.registry.topics.contains r.queue →
        (r.AtQueue queues → h.Tells (.getGroup r.group r.queue) (.group (some r.inFull))) ∧
        ((perform (.getGroup r.group r.queue) h).1 = .ready (.ok (.group (some r.inFull))) →
          r.AtQueue queues) := by
  intro h m
  have hm : m.Filed := steps_filed settings clock { site with drift := [] } hes
  have hdrift : h.site.drift = [] := steps_drift hes _
  -- Every lookup reads the same metadata, so each view is a function of it, and they are compared as such.
  have hs : h.site.Shows m h.site.backend.registry.topics := ⟨rfl, rfl, hdrift⟩
  refine ⟨m.queueInfos, m.groupInfos, fun group => ?_, fun queue hqueue => ?_,
    fun queue group hqueue hgroup => ?_, ?_, fun group hgroup => ?_, ?_, fun queue => ?_, ?_,
    fun group => ?_, fun info hinfo => ?_, fun info hinfo => ?_, fun r => ?_,
    fun r htopic => ⟨fun hshown => ?_, fun hanswer => ?_⟩⟩
  · exact tells_of_operation hs (Lifecycle.lookup_all_tells group) .queues
  · exact tells_of_operation hs (Lifecycle.lookup_queue_tells hqueue) .queues
  · exact tells_of_operation hs (Lifecycle.lookup_pair_tells hm hqueue hgroup) .queues
  · exact tells_of_operation hs (Groups.lookup_tells "") .groups
  · have hlookup : Operation.Tells m h.site.backend.registry.topics _ _ := Groups.lookup_tells group
    rw [if_neg (by simpa using hgroup)] at hlookup
    exact tells_of_operation hs hlookup .groups
  · rw [Metadata.queueInfos_names]
    exact m.queues.keys_ascending
  · rw [Metadata.queueInfos_names]
    exact (m.queues.contains_iff_mem_keys queue).symm
  · rw [Metadata.groupInfos_names]
    exact m.groupMap.keys_ascending
  · rw [Metadata.groupInfos_names]
    exact m.mem_groupMap_keys group
  · obtain ⟨e, he, rfl⟩ := List.mem_map.mp hinfo
    exact hm.queueInfo_records ((m.queues.get?_eq_some_iff e.1 e.2).mpr he)
  · obtain ⟨group, -, rfl⟩ := List.mem_map.mp hinfo
    exact hm.groupInfo_records group
  · rw [hm.atQueue_iff, hm.atGroup_iff]
  · have hrecord := (hm.atQueue_iff r).mp hshown
    obtain ⟨-, -, hgroup, hqueue⟩ := hm hrecord
    have hsingle := Groups.single_tells (m := m) hgroup hqueue htopic
    rw [hrecord] at hsingle
    exact tells_of_operation hs hsingle .group
  -- An answer with a record shows that the names were valid and that no call was struck.
  · have hsingle := single_of_getGroup hanswer
    obtain ⟨hgroup, hqueue⟩ := Groups.single_ok hsingle
    rw [hm.atQueue_iff]
    obtain ⟨-, -, hok | ⟨-, e, herror⟩⟩ := Groups.single_tells (m := m) hgroup hqueue htopic h.site hs
    · obtain ⟨found, hrecord, hsame⟩ := Option.map_eq_some_iff.mp (Except.ok.inj (hok.symm.trans hsingle))
      rw [hrecord, GroupRecord.inFull_injective hsame]
    · rw [hsingle] at herror
      cases herror

/-- A deletion that fails leaves the record to all readings. -/
theorem views_after_failed_deletion :
    let es : List Event := [.request (.createQueue "q"), .request (.addGroup "g" "q" { read := true }),
      .condition (.fault .deleteQueue ⟨⟨.unavailable, "down"⟩, 0, some 1⟩), .request (.deleteQueue "q")]
    let h := (steps es ⟨{}, { settings := ⟨["broker"], "registry", 1, 1⟩ }⟩).2
    let r : GroupRecord := .ofAccess "g" "q" { read := true }
    (∀ e ∈ es, e.ofRecords) ∧ ∃ queues groups, h.Tells (.lookupQueue "" "") (.queues queues) ∧
      h.Tells (.lookupGroup "") (.groups groups) ∧ r.AtQueue queues ∧ r.AtGroup groups := by
  intro es h r
  have hes : ∀ e ∈ es, e.ofRecords := by decide
  have htopic : h.site.backend.registry.topics.contains "q" := rfl
  have hsingle : (perform (.getGroup "g" "q") h).1 = .ready (.ok (.group (some r.inFull))) := rfl
  obtain ⟨queues, groups, hqueues, -, -, hgroups, -, -, -, -, -, -, -, hsame, hshown⟩ :=
    record_views_agree ⟨["broker"], "registry", 1, 1⟩ 0 {} hes
  have hat : r.AtQueue queues := (hshown r htopic).2 hsingle
  exact ⟨hes, queues, groups, hqueues "", hgroups, hat, (hsame r).mp hat⟩

end Host

end ManagedQueue
