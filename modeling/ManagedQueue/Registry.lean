import ManagedQueue.Failure
import ManagedQueue.Table

namespace ManagedQueue

structure Layout where
  partitions : UInt32
  replications : UInt32
deriving DecidableEq

structure Topic where
  layout : Layout
  incarnation : Nat
deriving DecidableEq

/-- Writes reach the table of topics only. Existence is also answered from a list of names as old as the last
refresh. Every topic created gets a number of its own, its incarnation. -/
structure Registry where
  topics : NameMap Topic := ∅
  cached : List String := []
  nextIncarnation : Nat := 0
  refreshes : Nat := 0
deriving DecidableEq

namespace Registry

/-- The topics of a saved registry are numbered from 1 in the order of their names. -/
def restore (layouts : NameMap Layout) : Registry where
  topics := (layouts.numbered 1).mapValues fun _ e => ⟨e.2, e.1⟩
  nextIncarnation := layouts.size + 1

def layouts (r : Registry) : NameMap Layout := r.topics.mapValues fun _ t => t.layout

def incarnation? (r : Registry) (name : String) : Option Nat :=
  (r.topics.get? name).map (·.incarnation)

def refresh (r : Registry) : Registry :=
  { r with cached := r.topics.keys, refreshes := r.refreshes + 1 }

/-- A forced check refreshes first, any other only if the name is not in the list. -/
def exist (r : Registry) (name : String) (force : Bool) : Bool × Registry :=
  if !force && r.cached.contains name then (true, r)
  else (r.refresh.cached.contains name, r.refresh)

def list (r : Registry) (force : Bool) : List String × Registry :=
  if force then (r.refresh.cached, r.refresh) else (r.cached, r)

def create (r : Registry) (name : String) (layout : Layout) :
    Except CollaboratorError Registry :=
  if r.topics.contains name then .error ⟨.conflict, s!"topic '{name}'"⟩
  -- The list of names stays as it is: the new topic is missing from it until the next refresh.
  else .ok { r with
    topics := r.topics.insert name ⟨layout, r.nextIncarnation⟩
    nextIncarnation := r.nextIncarnation + 1 }

def delete (r : Registry) (name : String) : Except CollaboratorError Registry :=
  if r.topics.contains name then .ok { r with topics := r.topics.erase name }
  else .error (.missingTopic name)

end Registry

end ManagedQueue
