import ManagedQueue.Failure

namespace ManagedQueue

/-- The lock is poisoned once a holder has failed; the value may then be half changed. -/
structure Guarded (α : Type) where
  value : α
  poisoned : Bool := false

namespace Guarded

def poisonedMessage : String :=
  "Internal synchronisation error (lock poisoned). A panic occurred while holding a lock. " ++
    "PoisonError: PoisonError \x7b .. \x7d"

def read {α : Type} (g : Guarded α) : Except CollaboratorError α :=
  if g.poisoned then .error ⟨.internal, poisonedMessage⟩ else .ok g.value

end Guarded

end ManagedQueue
