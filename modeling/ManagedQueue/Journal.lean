namespace ManagedQueue

inductive Level where
  | error
  | warn
  | info
  | debug
deriving DecidableEq

/-- Graver levels come first. -/
def Level.rank : Level → Nat
  | .error => 1
  | .warn => 2
  | .info => 3
  | .debug => 4

def Level.name : Level → String
  | .error => "ERROR"
  | .warn => "WARN"
  | .info => "INFO"
  | .debug => "DEBUG"

def Level.abbreviation : Level → String
  | .error => "ERR"
  | .warn => "WRN"
  | .info => "INF"
  | .debug => "DBG"

inductive Component where
  | startup
  | errorReport
  | stateFile
  | registry
  | transport
  | lifecycle
  | groups
  | gateway
  | metrics
  | sessions
  | service
deriving DecidableEq

def Component.path : Component → List String
  | .startup => ["app", "startup"]
  | .errorReport => ["core", "error_handling"]
  | .stateFile => ["backend", "memory"]
  | .registry => ["backend", "memory", "registry"]
  | .transport => ["backend", "memory", "transport"]
  | .lifecycle => ["service", "lifecycle"]
  | .groups => ["service", "groups"]
  | .gateway => ["service", "gateway"]
  | .metrics => ["service", "metrics"]
  | .sessions => ["service", "sessions"]
  | .service => ["service", "facade"]

structure LogRecord where
  level : Level
  component : Component
  text : String
deriving DecidableEq

abbrev Journal := List LogRecord

end ManagedQueue
