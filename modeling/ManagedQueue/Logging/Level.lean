import ManagedQueue.Journal

namespace ManagedQueue.Logging

/-- The least grave level that is still logged; `off` logs nothing. -/
inductive Threshold where
  | off
  | error
  | warn
  | info
  | debug
  | trace
deriving DecidableEq

namespace Threshold

def rank : Threshold → Nat
  | .off => 0
  | .error => 1
  | .warn => 2
  | .info => 3
  | .debug => 4
  | .trace => 5

def name : Threshold → String
  | .off => "off"
  | .error => "error"
  | .warn => "warn"
  | .info => "info"
  | .debug => "debug"
  | .trace => "trace"

def ofName? (s : String) : Option Threshold :=
  [off, error, warn, info, debug, trace].find? (·.name = s)

def admits (t : Threshold) (level : Level) : Bool := level.rank ≤ t.rank

end Threshold

end ManagedQueue.Logging
