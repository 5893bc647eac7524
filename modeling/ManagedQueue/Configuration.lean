import ManagedQueue.Operation
import ManagedQueue.Toml.Reader

namespace ManagedQueue

structure LogSettings where
  level : Option String := none
  format : Option String := none
  file : Option String := none
  color : Option Bool := none
deriving DecidableEq

structure Configuration where
  brokers : List String := ["localhost:9092"]
  registryAddress : String := "localhost:2181"
  partitions : UInt32 := 16
  replications : UInt32 := 2
  stateFile : Option String := none
  log : LogSettings := {}
deriving DecidableEq

inductive ConfigurationFault where
  | noPartitions
  | noReplications
  | noBrokers
deriving DecidableEq

def ConfigurationFault.message : ConfigurationFault → String
  | .noPartitions => "partitions must be at least 1"
  | .noReplications => "replications must be at least 1"
  | .noBrokers => "broker_addrs must name at least one broker"

namespace Toml

def string? : Toml → Option String
  | .string s => some s
  | _ => none

def boolean? : Toml → Option Bool
  | .boolean b => some b
  | _ => none

def uint32? : Toml → Option UInt32
  | .integer n => if 0 ≤ n ∧ n < (UInt32.size : Int) then some (UInt32.ofNat n.toNat) else none
  | _ => none

def strings? : Toml → Option (List String)
  | .array _ items => items.mapM string?
  | _ => none

end Toml

namespace LogSettings

def set (s : LogSettings) (key : String) (v : Toml) : Option LogSettings :=
  match key with
  | "level" => v.string?.map fun level => { s with level := some level }
  | "format" => v.string?.map fun format => { s with format := some format }
  | "file" => v.string?.map fun file => { s with file := some file }
  | "color" => v.boolean?.map fun color => { s with color := some color }
  | _ => none

def keys : List String := ["level", "format", "file", "color"]

/-- The settings may also stand as an array in the order of their keys, with or without the last
ones; what follows after all of them is passed over. -/
def ofToml? : Toml → Option LogSettings
  | .table _ members => members.foldlM (fun s m => s.set m.1 m.2) {}
  | .array _ items => (keys.zip items).foldlM (fun s m => s.set m.1 m.2) {}
  | _ => none

end LogSettings

namespace Configuration

def set (c : Configuration) (key : String) (v : Toml) : Option Configuration :=
  match key with
  | "broker_addrs" => v.strings?.map fun brokers => { c with brokers }
  | "registry_addr" => v.string?.map fun registryAddress => { c with registryAddress }
  | "partitions" => v.uint32?.map fun partitions => { c with partitions }
  | "replications" => v.uint32?.map fun replications => { c with replications }
  | "state_file" => v.string?.map fun file => { c with stateFile := some file }
  | "log" => (LogSettings.ofToml? v).map fun log => { c with log }
  | _ => none

def read? (text : String) : Option Configuration := do
  (← Toml.parse? text).foldlM (fun c m => c.set m.1 m.2) {}

def settings (c : Configuration) : Settings where
  brokers := c.brokers
  registryAddress := c.registryAddress
  partitions := c.partitions
  replications := c.replications

def fault? (c : Configuration) : Option ConfigurationFault :=
  if c.partitions = 0 then some .noPartitions
  else if c.replications = 0 then some .noReplications
  else if c.brokers.isEmpty then some .noBrokers
  else none

end Configuration

end ManagedQueue
