import ManagedQueue.Proofs.DeliveryOrder

namespace ManagedQueue

namespace Registry

theorem layouts_restore (layouts : NameMap Layout) : (restore layouts).layouts = layouts := by
  have hlayouts : (restore layouts).layouts = (layouts.numbered 1).mapValues fun _ e => e.2 := by
    unfold restore Registry.layouts
    rw [Table.mapValues_mapValues]
  rw [hlayouts, Table.mapValues_numbered]

theorem contains_layouts (r : Registry) (name : String) :
    r.layouts.contains name = r.topics.contains name := by
  simp [layouts, Table.contains]

theorem keys_layouts (r : Registry) : r.layouts.keys = r.topics.keys := by
  simp [layouts, Table.keys, Table.mapValues]

theorem contains_restore (r : Registry) (name : String) :
    (restore r.layouts).topics.contains name = r.topics.contains name := by
  rw [← contains_layouts, layouts_restore, contains_layouts]

theorem keys_restore (r : Registry) : (restore r.layouts).topics.keys = r.topics.keys := by
  rw [← keys_layouts, layouts_restore, keys_layouts]

end Registry

namespace Backend

variable {b : Backend} {queue group : String}

theorem snapshot_restore (b : Backend) (clock : Int64) :
    (b.snapshot.restore clock).snapshot = b.snapshot := by
  have hcontains : (Registry.restore b.registry.layouts).topics.contains = b.registry.topics.contains :=
    funext b.registry.contains_restore
  have hfilter {α : Type} (t : NameMap α) :
      (t.filterKeys b.registry.topics.contains).filterKeys b.registry.topics.contains =
        t.filterKeys b.registry.topics.contains := by
    apply Table.ext_get?
    intro name
    by_cases hname : b.registry.topics.contains name <;> simp [hname]
  simp only [snapshot, Snapshot.restore, Registry.layouts_restore, hcontains, hfilter]

/-- Messages of a deleted topic that the transport still keeps under the name of a new one. -/
def Leftover (b : Backend) (queue group : String) : Prop :=
  (∃ i, b.registry.incarnation? queue = some i ∧ b.transport.isStale queue i) ∧
    0 < b.transport.pending queue group

theorem undelivered_restored (b : Backend) (clock : Int64) (queue group : String) :
    (b.snapshot.restore clock).undelivered queue group = (b.registry.incarnation? queue).map fun _ =>
      (b.transport.log queue).drop (b.transport.offset queue group) := by
  unfold undelivered feed
  have htopic : ((b.snapshot.restore clock).registry.incarnation? queue).isSome =
      (b.registry.incarnation? queue).isSome := by
    rw [Registry.isSome_incarnation, Registry.isSome_incarnation]
    exact b.registry.contains_restore queue
  cases hi : b.registry.incarnation? queue with
  | none =>
      rw [hi, Option.isSome_none, Option.isSome_eq_false_iff, Option.isNone_iff_eq_none] at htopic
      rw [htopic]
      rfl
  | some i =>
      rw [hi] at htopic
      obtain ⟨j, hj⟩ := Option.isSome_iff_exists.mp htopic
      have hcontains := Registry.live_of_incarnation hi
      have hunbound : (b.snapshot.restore clock).transport.bindings.get? queue = none := rfl
      rw [hj, Option.map_some, Transport.feed_of_bound (Transport.isStale_of_unbound hunbound j)]
      simp [Snapshot.restore, snapshot, Transport.log, Transport.offset, Transport.groupOffsets,
        Table.getD, hcontains]

theorem measured_restored (hb : b.transport.Measured) (clock : Int64) :
    (b.snapshot.restore clock).transport.Measured := by
  intro name g
  have hmeasured := hb name g
  unfold Transport.log Transport.offset Transport.groupOffsets Table.getD at hmeasured ⊢
  by_cases hname : b.registry.topics.contains name
  · simpa [Snapshot.restore, snapshot, hname] using hmeasured
  · simp [Snapshot.restore, snapshot, hname]

theorem undelivered_of_fresh (h : ¬ b.Leftover queue group) (clock : Int64) :
    (b.snapshot.restore clock).undelivered queue group = b.undelivered queue group := by
  rw [undelivered_restored]
  unfold undelivered feed
  cases hi : b.registry.incarnation? queue with
  | none => rfl
  | some i =>
      rw [Option.map_some, Option.map_some, Option.map_some]
      cases hstale : b.transport.isStale queue i with
      | false => rw [Transport.feed_of_bound hstale]
      | true =>
          -- Of the deleted topic nothing is left to deliver.
          have hpending : b.transport.pending queue group = 0 :=
            Nat.eq_zero_of_not_pos fun hpos => h ⟨⟨i, hi, hstale⟩, hpos⟩
          have hdrop : (b.transport.log queue).drop (b.transport.offset queue group) = [] :=
            List.drop_eq_nil_of_le (Nat.le_of_sub_eq_zero hpending)
          rw [hdrop, Transport.feed, hstale]
          rfl

/-- The deleted topic's messages are undelivered after the restoration and only then. -/
theorem undelivered_of_leftover (h : b.Leftover queue group) (clock : Int64) :
    b.undelivered queue group = some [] ∧
      (b.snapshot.restore clock).undelivered queue group =
        some ((b.transport.log queue).drop (b.transport.offset queue group)) := by
  obtain ⟨⟨i, hi, hstale⟩, -⟩ := h
  constructor
  · rw [undelivered, feed, hi, Option.map_some, Option.map_some, Transport.feed, hstale]
    rfl
  · rw [undelivered_restored, hi]
    rfl

end Backend

/-- To send a message, to get the next one, or to know how many are pending. -/
inductive Want where
  | send (payload : Payload)
  | fetch (addresses : List String)
  | count
deriving DecidableEq

structure Demand where
  queue : String
  group : String
  want : Want
deriving DecidableEq

namespace Demand

/-- The answer, from what the group has not been given yet. -/
def answer (d : Demand) (left : Option (List Payload)) : Except CollaboratorError Datum :=
  match d.want, left with
  | .count, left => .ok (.number (left.getD []).length)
  | .send _, some _ => .ok .done
  | .send _, none => .error (.missingTopic d.queue)
  | .fetch [], _ => .error ⟨.unavailable, "no broker addresses configured"⟩
  | .fetch _, some left => .ok (.payload left.head?)
  | .fetch _, none => .error (.missingTopic d.queue)

def happenings (d : Demand) (answer : Except CollaboratorError Datum) : List Happening :=
  match d.want, answer with
  | .send payload, .ok _ => [.sent d.queue payload]
  | .fetch _, .ok (.payload (some payload)) => [.received d.queue d.group payload]
  | _, _ => []

theorem happenings_within (d : Demand) (answer : Except CollaboratorError Datum) (name : String) :
    Within name (d.happenings answer) := by
  unfold happenings
  split <;> simp [Within]

end Demand

namespace Site

def fetch (addresses : List String) (queue group : String) :
    Task (Except CollaboratorError (Option Payload)) := do
  match ← openSession addresses queue group with
  | .error e => return .error e
  | .ok session => look session

def serve (d : Demand) : Task (Except CollaboratorError Datum) :=
  match d.want with
  | .send payload => return (← produce d.queue payload).map fun _ => .done
  | .fetch addresses => return (← fetch addresses d.queue d.group).map .payload
  | .count => return .ok (.number (← pending d.queue d.group))

def serveAll : List Demand → Task (List (Except CollaboratorError Datum))
  | [] => return []
  | d :: ds => do
    let answer ← serve d
    return answer :: (← serveAll ds)

variable {closes : Nat → Prop}

theorem fetch_evolves (addresses : List String) (queue group : String) (s : Site) :
    Backend.Evolves closes s.backend (taken queue group (fetch addresses queue group s).1)
      (fetch addresses queue group s).2.backend := by
  have hopens := openSession_opens addresses queue group s
  unfold fetch
  rw [bind_apply]
  rcases hr : openSession addresses queue group s with ⟨e | n, t⟩
  · rw [hr] at hopens
    exact hopens.evolves
  · rw [hr] at hopens
    have hreads : t.backend.transport.Reads n queue group :=
      ⟨_, hopens.opened_session.1, rfl, rfl⟩
    exact hopens.evolves.trans ((look_looks n t).evolves hreads)

theorem fetch_answer (addresses : List String) (queue group : String) (s : Site) :
    (fetch addresses queue group s).1.map .payload =
      Demand.answer ⟨queue, group, .fetch addresses⟩ (s.backend.undelivered queue group) := by
  cases addresses with
  | nil => rfl
  | cons address rest =>
      have hopens := openSession_opens (address :: rest) queue group s
      unfold fetch
      rw [bind_apply]
      rcases hr : openSession (address :: rest) queue group s with ⟨e | n, t⟩
      · rw [hr] at hopens
        cases hopens with
        | unavailable ha => cases ha
        | missing hi =>
            rw [Backend.undelivered, Backend.feed, hi]
            rfl
      · rw [hr] at hopens
        obtain ⟨hopen, hfeed⟩ := hopens.opened_session
        -- The session that was just opened is open and reads the feed as it was before.
        have hlook := (look_looks n t).answer_eq hopen
        rw [hfeed] at hlook
        change (look n t).1.map Datum.payload = _
        rw [hlook, Backend.undelivered]
        cases s.backend.feed queue group with
        | none => rfl
        | some f =>
            obtain ⟨log, place⟩ := f
            simp [Demand.answer, Except.map]

theorem serve_answer (d : Demand) (s : Site) :
    (serve d s).1 = d.answer (s.backend.undelivered d.queue d.group) := by
  obtain ⟨queue, group, want⟩ := d
  cases want with
  | send payload =>
      change (produce queue payload s).1.map _ = _
      rw [Backend.undelivered, Backend.feed]
      obtain ⟨hi, hr⟩ | ⟨i, t, hi, hr, -⟩ := produce_cases queue payload s
      · rw [hr, hi]
        rfl
      · rw [hr, hi]
        rfl
  | fetch addresses => exact fetch_answer addresses queue group s
  | count =>
      change Except.ok (Datum.number (pending queue group s).1) = _
      rw [Host.pending_undelivered]
      rfl

theorem serve_evolves (d : Demand) (s : Site) :
    Backend.Evolves closes s.backend (d.happenings (serve d s).1) (serve d s).2.backend := by
  obtain ⟨queue, group, want⟩ := d
  cases want with
  | send payload =>
      have hproduce : Backend.Evolves closes s.backend _ _ := produce_evolves queue payload s
      unfold serve
      simp only [bind_apply, pure_apply]
      rcases hr : produce queue payload s with ⟨e | ⟨⟩, t⟩
      · rw [hr] at hproduce
        exact hproduce
      · rw [hr] at hproduce
        exact hproduce
  | fetch addresses =>
      have hfetch : Backend.Evolves closes s.backend _ _ := fetch_evolves addresses queue group s
      unfold serve
      simp only [bind_apply, pure_apply]
      rcases hr : fetch addresses queue group s with ⟨e | _ | payload, t⟩
      · rw [hr] at hfetch
        exact hfetch
      · rw [hr] at hfetch
        exact hfetch
      · rw [hr] at hfetch
        exact hfetch
  | count => exact pending_evolves queue group s

theorem serveAll_congr {saved saved' : Snapshot} {demands : List Demand} {s t : Site}
    (hs : s.backend.Numbered saved) (ht : t.backend.Numbered saved')
    (hms : s.backend.transport.Measured) (hmt : t.backend.transport.Measured)
    (h : ∀ d ∈ demands, t.backend.undelivered d.queue d.group = s.backend.undelivered d.queue d.group) :
    (serveAll demands t).1 = (serveAll demands s).1 := by
  -- Along the demands. What they do to what is left to read depends only on what is left to read, so the
  -- two sites stay alike.
  induction demands generalizing s t with
  | nil => rfl
  | cons d rest ih =>
      have hfirst : (serve d t).1 = (serve d s).1 := by
        rw [serve_answer, serve_answer, h d (.head _)]
      have hevolves : Backend.Evolves (fun _ => False) s.backend _ _ := serve_evolves d s
      have hevolves' : Backend.Evolves (fun _ => False) t.backend _ _ := serve_evolves d t
      rw [hfirst] at hevolves'
      have hlife := d.happenings_within (serve d s).1
      have hrest : (serveAll rest (serve d t).2).1 = (serveAll rest (serve d s).2).1 := by
        apply ih (hevolves.numbered hs) (hevolves'.numbered ht) (hevolves.measured hms)
          (hevolves'.measured hmt)
        intro e he
        rw [hevolves.undelivered hs hms (hlife e.queue), hevolves'.undelivered ht hmt (hlife e.queue),
          h e (.tail _ he)]
      change (serve d t).1 :: (serveAll rest (serve d t).2).1 = _
      rw [hfirst, hrest]
      rfl

end Site

/-- Calls that only ask: which topics there are by now, what is recorded and what was counted. -/
def Direct.reads : Direct → Bool
  | .existTopic _ force | .listTopics force => force
  | .existQueue _ | .queueCreateTime _ | .queueMap | .groupMap | .groupConfig _ _ | .groupCount
  | .query _ _ _ _ | .total _ _ _ | .snapshot => true
  | _ => false

namespace Site

/-- The site with its backend saved and built again. -/
def restored (s : Site) : Site :=
  { s with backend := s.backend.snapshot.restore s.backend.clock }

theorem existTopic_forced (name : String) (s : Site) :
    (existTopic name true s).1 = s.backend.registry.topics.keys.contains name := rfl

theorem listTopics_forced (s : Site) : (listTopics true s).1 = s.backend.registry.topics.keys := rfl

theorem query_congr {s t : Site} (h : t.backend.metrics = s.backend.metrics) (direction : Direction)
    (queue group : String) (w : Window) :
    (query direction queue group w t).1 = (query direction queue group w s).1 := by
  unfold query
  simp only [bind_apply, get_apply, h]
  cases s.backend.metrics.query direction queue group w <;> rfl

theorem perform_restored {d : Direct} (hd : d.reads) (s : Site) :
    (perform d s.restored).1 = (perform d s).1 := by
  have hkeys : s.restored.backend.registry.topics.keys = s.backend.registry.topics.keys :=
    s.backend.registry.keys_restore
  cases d with
  | existTopic name force =>
      obtain rfl : force = true := hd
      change Except.ok (Datum.flag (existTopic name true s.restored).1) = _
      rw [existTopic_forced, hkeys]
      rfl
  | listTopics force =>
      obtain rfl : force = true := hd
      change Except.ok (Datum.names (listTopics true s.restored).1) = _
      rw [listTopics_forced, hkeys]
      rfl
  | query direction queue group w =>
      change (query direction queue group w s.restored).1.map Datum.series = _
      rw [query_congr (s := s) (t := s.restored) rfl]
      rfl
  | snapshot =>
      change Except.ok (Datum.snapshot s.restored.backend.snapshot) = _
      rw [restored, Backend.snapshot_restore]
      rfl
  | existQueue | queueCreateTime | queueMap | groupMap | groupConfig | groupCount | total => rfl
  | createTopic | deleteTopic | topicInfo | addQueue | deleteQueue | addGroup | updateGroup | deleteGroup
  | produce | pending | sessionsOpened | openSession | receive | close | record => cases hd

end Site

namespace Host

/-- In every run from an empty backend, with any failures: the backend that is saved and built again
answers as before every call that only asks, and all demands of groups for which no messages of a
deleted topic are left over. Where some are left over, nothing is pending before, and they are
pending afterwards. -/
theorem restored_alike (settings : Settings) (clock : Int64) (site : Site) (es : List Event) :
    let start : Host := ⟨{ site with backend := .fresh clock }, { settings }⟩
    let s := (steps es start).2.site
    (∀ d : Direct, d.reads → (Site.perform d s.restored).1 = (Site.perform d s).1) ∧
    s.restored.backend.registry.layouts = s.backend.registry.layouts ∧
    (∀ demands : List Demand, (∀ d ∈ demands, ¬ s.backend.Leftover d.queue d.group) →
      (Site.serveAll demands s.restored).1 = (Site.serveAll demands s).1) ∧
    ∀ queue group, s.backend.Leftover queue group →
      (Site.pending queue group s).1 = 0 ∧
        (Site.pending queue group s.restored).1 = s.backend.transport.pending queue group := by
  intro start s
  have hevolves := chronicle_evolves start (.start _ settings) es
  have hnumbered : s.backend.Numbered {} := hevolves.numbered (Backend.restore_numbered {} clock)
  have hmeasured : s.backend.transport.Measured := hevolves.measured fun _ _ => Nat.zero_le _
  refine ⟨fun d hd => Site.perform_restored hd s, Registry.layouts_restore _, fun demands hd => ?_,
    fun queue group hleft => ?_⟩
  · exact Site.serveAll_congr hnumbered (Backend.restore_numbered _ _) hmeasured
      (Backend.measured_restored hmeasured _) fun d hmem =>
        Backend.undelivered_of_fresh (hd d hmem) s.backend.clock
  · obtain ⟨hbefore, hafter⟩ := Backend.undelivered_of_leftover hleft s.backend.clock
    have hrestored : s.restored.backend.undelivered queue group = some _ := hafter
    rw [pending_undelivered, pending_undelivered, hbefore, hrestored]
    exact ⟨rfl, List.length_drop⟩

/-- A topic that is deleted and made again before its queue is used. -/
example :
    let es : List Event := [.direct (.createTopic "q" ⟨4, 2⟩), .direct (.produce "q" [111]),
      .direct (.deleteTopic "q"), .direct (.createTopic "q" ⟨4, 2⟩)]
    let s := (steps es ⟨{}, { settings := ⟨[], "", 4, 2⟩ }⟩).2.site
    (Site.pending "q" "g" s).1 = 0 ∧ (Site.pending "q" "g" s.restored).1 = 1 := by
  decide +kernel

end Host

end ManagedQueue
