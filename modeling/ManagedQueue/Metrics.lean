import ManagedQueue.Table
import ManagedQueue.Window

namespace ManagedQueue

inductive Direction where
  | send
  | receive
deriving DecidableEq

def Direction.name : Direction → String
  | .send => "send"
  | .receive => "receive"

structure CountedEvent where
  time : Int64
  count : UInt64
deriving DecidableEq

structure Counters where
  send : List CountedEvent := []
  receive : List CountedEvent := []
deriving DecidableEq

def Counters.events (c : Counters) : Direction → List CountedEvent
  | .send => c.send
  | .receive => c.receive

def Counters.add (c : Counters) (direction : Direction) (e : CountedEvent) : Counters :=
  match direction with
  | .send => { c with send := c.send ++ [e] }
  | .receive => { c with receive := c.receive ++ [e] }

structure Bucket where
  start : Int64
  stop : Int64
  count : UInt64
deriving DecidableEq

/-- The answer to a metrics query; an empty group stands for all groups together. -/
structure Series where
  queue : String
  group : String
  direction : Direction
  buckets : List Bucket
deriving DecidableEq

def sumCounts (counts : List UInt64) : UInt64 := counts.foldl (· + ·) 0

def Series.total (s : Series) : UInt64 := sumCounts (s.buckets.map (·.count))

structure Metrics where
  queues : NameMap (NameMap Counters) := ∅
deriving DecidableEq

namespace Metrics

def counters (m : Metrics) (queue group : String) : Counters :=
  ((m.queues.get? queue).bind (·.get? group)).getD {}

def record (m : Metrics) (direction : Direction) (queue group : String) (e : CountedEvent) :
    Metrics :=
  let groups := m.queues.getD queue ∅
  ⟨m.queues.insert queue (groups.insert group ((m.counters queue group).add direction e))⟩

def total (m : Metrics) (direction : Direction) (queue group : String) : UInt64 :=
  sumCounts (((m.counters queue group).events direction).map (·.count))

def events (m : Metrics) (direction : Direction) (queue group : String) : List CountedEvent :=
  ((m.queues.getD queue ∅).filterKeys fun name => group.isEmpty || name = group).entries.flatMap
    fun e => e.2.events direction

def countIn (events : List CountedEvent) (bounds : Int64 × Int64) : Bucket where
  start := bounds.1
  stop := bounds.2
  count := sumCounts
    ((events.filter fun e => bounds.1 ≤ e.time && e.time < bounds.2).map (·.count))

/-- The recorder has a check of its own for the windows that it cuts into buckets. -/
def refuses (w : Window) : Bool :=
  w.stop ≤ w.start || w.buckets = 0 || Window.maxBuckets < w.buckets

def query (m : Metrics) (direction : Direction) (queue group : String) (w : Window) :
    Option Series :=
  if refuses w then none
  else some
    { queue, group, direction, buckets := w.bounds.map (countIn (m.events direction queue group)) }

theorem refuses_eq (w : Window) : refuses w = w.fault?.isSome := by
  unfold refuses Window.fault?
  split
  · next h => simp [h]
  · next h =>
    split
    · next hbuckets => simp [hbuckets]
    · next hbuckets => split <;> simp [*]

theorem query_of_valid (m : Metrics) (direction : Direction) (queue group : String) {w : Window}
    (h : w.fault? = none) : m.query direction queue group w = some
      { queue, group, direction, buckets := w.bounds.map (countIn (m.events direction queue group)) } := by
  rw [query, refuses_eq, h]
  rfl

end Metrics

end ManagedQueue
