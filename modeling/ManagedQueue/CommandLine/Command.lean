import ManagedQueue.Logging.Level
import ManagedQueue.Logging.Line
import ManagedQueue.Report
import ManagedQueue.Window
import ManagedQueue.Metrics

namespace ManagedQueue.CommandLine

/-- A span of time to count messages in; a bound left out depends on the current time. -/
structure Span where
  start : Option Int64
  stop : Option Int64
  buckets : UInt32
deriving DecidableEq

inductive Command where
  | createQueue (queue : String)
  | updateQueue (queue : String)
  | deleteQueue (queue : String)
  | lookupQueue (queue group : String)
  | addGroup (group queue : String) (access : Access)
  | updateGroup (group queue : String) (access : Access)
  | deleteGroup (group queue : String)
  | lookupGroup (group : String)
  | getGroup (group queue : String)
  | send (queue group message : String)
  | receive (queue group : String) (timeout : UInt64)
  | acknowledge (queue group : String)
  | volume (direction : Direction) (queue group : String) (span : Span)
  | audit
  | version
deriving DecidableEq

def Command.name : Command → String
  | .createQueue _ => "create-queue"
  | .updateQueue _ => "update-queue"
  | .deleteQueue _ => "delete-queue"
  | .lookupQueue _ _ => "lookup-queue"
  | .addGroup _ _ _ => "add-group"
  | .updateGroup _ _ _ => "update-group"
  | .deleteGroup _ _ => "delete-group"
  | .lookupGroup _ => "lookup-group"
  | .getGroup _ _ => "get-group"
  | .send _ _ _ => "send"
  | .receive _ _ _ => "receive"
  | .acknowledge _ _ => "ack"
  | .volume .send _ _ _ => "send-metrics"
  | .volume .receive _ _ _ => "receive-metrics"
  | .audit => "audit"
  | .version => "version"

structure Options where
  configFile : Option String := none
  stateFile : Option String := none
  logLevel : Option Logging.Threshold := none
  logFormat : Option Logging.Format := none
  logFile : Option String := none
  color : Bool := false
  noColor : Bool := false
  json : Bool := false
deriving DecidableEq

def Options.colorChoice (o : Options) : Option Bool :=
  if o.color then some true else if o.noColor then some false else none

structure Invocation where
  options : Options
  command : Command
deriving DecidableEq

namespace Span

def defaultLength : Int := 3600

def nearest (seconds : Int) : Int64 :=
  Int64.ofInt (max Int64.minValue.toInt (min Int64.maxValue.toInt seconds))

/-- Without an end the span lasts until now, the current second included. -/
def window (s : Span) (now : Int64) : Window :=
  let stop := s.stop.getD (nearest (now.toInt + 1))
  { start := s.start.getD (nearest (stop.toInt - defaultLength)), stop, buckets := s.buckets }

end Span

end ManagedQueue.CommandLine
