import ManagedQueue.Metadata
import ManagedQueue.Metrics

namespace ManagedQueue

/-- What a group may do on a queue, where it is called back, and from which addresses. -/
structure Access where
  write : Bool := false
  read : Bool := false
  url : String := ""
  ips : List String := []
deriving DecidableEq

structure GroupConfig where
  group : Option String := none
  queue : Option String := none
  access : Access
deriving DecidableEq

structure QueueInfo where
  queue : String
  ctime : Int64
  /-- Depth is not computed and reads 0. -/
  length : UInt64
  groups : List GroupConfig
deriving DecidableEq

structure GroupInfo where
  group : String
  queues : List GroupConfig
deriving DecidableEq

/-- Which store has a queue that the other lacks. -/
inductive Inconsistency where
  | metadataOnly
  | brokerOnly
deriving DecidableEq

def Inconsistency.name : Inconsistency → String
  | .metadataOnly => "MetadataOnly"
  | .brokerOnly => "BrokerOnly"

structure Finding where
  queue : String
  state : Inconsistency
deriving DecidableEq

namespace GroupRecord

def access (r : GroupRecord) : Access :=
  { write := r.write, read := r.read, url := r.url, ips := r.ips }

def ofAccess (group queue : String) (a : Access) : GroupRecord :=
  { group, queue, write := a.write, read := a.read, url := a.url, ips := a.ips }

def underQueue (r : GroupRecord) : GroupConfig := { group := some r.group, access := r.access }

def underGroup (r : GroupRecord) : GroupConfig := { queue := some r.queue, access := r.access }

def inFull (r : GroupRecord) : GroupConfig :=
  { group := some r.group, queue := some r.queue, access := r.access }

end GroupRecord

end ManagedQueue
