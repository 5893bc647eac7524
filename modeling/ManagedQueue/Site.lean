import ManagedQueue.Backend
import ManagedQueue.Journal
import ManagedQueue.Name

namespace ManagedQueue

inductive Call where
  | existTopic
  | createTopic
  | deleteTopic
  | listTopics
  | existQueue
  | addQueue
  | deleteQueue
  | queueCreateTime
  | queueMap
  | groupMap
  | addGroupConfig
  | updateGroupConfig
  | deleteGroupConfig
  | groupConfig
  | produce
  | openSession
  | receive
  | close
  | query
deriving DecidableEq

/-- The first `skip` calls pass, then `times` calls fail (all of them without a number), and
later ones pass again. -/
structure Fault where
  error : CollaboratorError
  skip : Nat := 0
  times : Option Nat := none
deriving DecidableEq

def Fault.strike (f : Fault) : Bool × Option Fault :=
  match f.skip, f.times with
  | n + 1, _ => (false, some { f with skip := n })
  | 0, none => (true, some f)
  | 0, some 0 => (false, none)
  | 0, some 1 => (true, none)
  | 0, some (n + 2) => (true, some { f with times := some (n + 1) })

structure Site where
  backend : Backend := .fresh 0
  faults : Call → Option Fault := fun _ => none
  /-- Index entries, as queue and group, that the service sees beyond those of the records. -/
  drift : List (String × String) := []
  /-- While this is set, opening a session waits. -/
  gateShut : Bool := false
  journal : Journal := []

abbrev Task := StateM Site

namespace Site

def note (level : Level) (component : Component) (text : String) : Task Unit :=
  modify fun s => { s with journal := s.journal ++ [⟨level, component, text⟩] }

def setRegistry (registry : Registry) : Task Unit :=
  modify fun s => { s with backend := { s.backend with registry } }

def setMetadata (metadata : Metadata) : Task Unit :=
  modify fun s => { s with backend := { s.backend with metadata } }

def setTransport (transport : Transport) : Task Unit :=
  modify fun s => { s with backend := { s.backend with transport } }

def setMetrics (metrics : Metrics) : Task Unit :=
  modify fun s => { s with backend := { s.backend with metrics } }

def existTopic (name : String) (force : Bool) : Task Bool := do
  let (found, registry) := (← get).backend.registry.exist name force
  setRegistry registry
  return found

def listTopics (force : Bool) : Task (List String) := do
  let (names, registry) := (← get).backend.registry.list force
  setRegistry registry
  return names

def createTopic (name : String) (layout : Layout) (address : String) :
    Task (Except CollaboratorError Unit) := do
  match (← get).backend.registry.create name layout with
  | .error e => return .error e
  | .ok registry =>
    setRegistry registry
    note .debug .registry
      s!"registry {address}: created topic '{name}' ({layout.partitions} partitions, {layout.replications} replicas)"
    return .ok ()

def deleteTopic (name address : String) : Task (Except CollaboratorError Unit) := do
  match (← get).backend.registry.delete name with
  | .error e => return .error e
  | .ok registry =>
    setRegistry registry
    note .debug .registry s!"registry {address}: deleted topic '{name}'"
    return .ok ()

def existQueue (queue : String) : Task Bool := return (← get).backend.metadata.exist queue

def queueCreateTime (queue : String) : Task (Except CollaboratorError Int64) :=
  return (← get).backend.metadata.createTime queue

def groupConfig (group queue : String) : Task (Option GroupRecord) :=
  return (← get).backend.metadata.record? group queue

/-- Writes what the change answers; an error changes nothing. -/
def changeMetadata (change : Backend → Except CollaboratorError Metadata) :
    Task (Except CollaboratorError Unit) := do
  match change (← get).backend with
  | .error e => return .error e
  | .ok metadata =>
    setMetadata metadata
    return .ok ()

def addQueue (queue : String) : Task (Except CollaboratorError Unit) :=
  changeMetadata fun b => b.metadata.addQueue queue b.clock

def deleteQueue (queue : String) : Task (Except CollaboratorError Unit) :=
  changeMetadata fun b => b.metadata.deleteQueue queue

def addGroupConfig (record : GroupRecord) : Task (Except CollaboratorError Unit) :=
  changeMetadata fun b => b.metadata.addGroup record

def updateGroupConfig (record : GroupRecord) : Task (Except CollaboratorError Unit) :=
  changeMetadata fun b => b.metadata.updateGroup record

def deleteGroupConfig (group queue : String) : Task (Except CollaboratorError Unit) :=
  changeMetadata fun b => b.metadata.deleteGroup group queue

/-- Binds the queue to its topic's incarnation; an error if it has no topic. -/
def attach (queue : String) : Task (Except CollaboratorError Unit) := do
  let b := (← get).backend
  match b.registry.incarnation? queue with
  | none => return .error (.missingTopic queue)
  | some incarnation =>
    setTransport (b.transport.bind queue incarnation)
    if b.transport.isStale queue incarnation then
      note .debug .transport s!"purged log of deleted topic '{queue}'"
    return .ok ()

def produce (queue : String) (payload : Payload) : Task (Except CollaboratorError Unit) := do
  match ← attach queue with
  | .error e => return .error e
  | .ok () =>
    setTransport ((← get).backend.transport.append queue payload)
    return .ok ()

def pending (queue group : String) : Task Nat := do
  match ← attach queue with
  | .error _ => return 0
  | .ok () => return (← get).backend.transport.pending queue group

def openSession (addresses : List String) (queue group : String) :
    Task (Except CollaboratorError Nat) := do
  if addresses.isEmpty then return .error ⟨.unavailable, "no broker addresses configured"⟩
  match ← attach queue with
  | .error e => return .error e
  | .ok () =>
    let (session, transport) := (← get).backend.transport.openSession queue group
    setTransport transport
    let via := String.intercalate "," addresses
    note .debug .transport s!"opened consumer session {sessionKey queue group} via {via}"
    return .ok session

def look (session : Nat) : Task (Except CollaboratorError (Option Payload)) := do
  match (← get).backend.transport.sessions[session]? with
  | none => return .error ⟨.closed, ""⟩
  | some s =>
    if s.closed then return .error ⟨.closed, sessionKey s.queue s.group⟩
    match ← attach s.queue with
    | .error e => return .error e
    | .ok () =>
      let (payload, transport) := (← get).backend.transport.take s.queue s.group
      setTransport transport
      return .ok payload

def closeSession (session : Nat) : Task Unit := do
  setTransport ((← get).backend.transport.closeSession session)

def record (direction : Direction) (queue group : String) (count : UInt64) : Task Unit := do
  let b := (← get).backend
  setMetrics (b.metrics.record direction queue group ⟨b.clock, count⟩)

def query (direction : Direction) (queue group : String) (w : Window) :
    Task (Except CollaboratorError Series) := do
  match (← get).backend.metrics.query direction queue group w with
  | some series => return .ok series
  | none => return .error ⟨.internal,
      s!"invalid window [{w.start}, {w.stop}) with {w.buckets} buckets"⟩

end Site

end ManagedQueue
