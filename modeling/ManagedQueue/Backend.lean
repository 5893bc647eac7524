import ManagedQueue.Metadata
import ManagedQueue.Metrics
import ManagedQueue.Registry
import ManagedQueue.Transport

namespace ManagedQueue

structure Backend where
  registry : Registry := {}
  metadata : Metadata := {}
  transport : Transport := {}
  metrics : Metrics := {}
  clock : Int64 := 0
deriving DecidableEq

/-- Incarnations, the list of cached names and sessions are not saved. -/
structure Snapshot where
  topics : NameMap Layout := ∅
  metadata : Metadata := {}
  logs : NameMap (List Payload) := ∅
  offsets : NameMap (NameMap Nat) := ∅
  metrics : Metrics := {}
deriving DecidableEq

/-- Of the transport only what belongs to a queue with a topic is saved. -/
def Backend.snapshot (b : Backend) : Snapshot where
  topics := b.registry.layouts
  metadata := b.metadata
  logs := b.transport.logs.filterKeys b.registry.topics.contains
  offsets := b.transport.offsets.filterKeys b.registry.topics.contains
  metrics := b.metrics

def Snapshot.restore (s : Snapshot) (clock : Int64) : Backend where
  registry := Registry.restore s.topics
  metadata := s.metadata
  transport := { logs := s.logs, offsets := s.offsets }
  metrics := s.metrics
  clock

def Backend.fresh (clock : Int64) : Backend := Snapshot.restore {} clock

end ManagedQueue
