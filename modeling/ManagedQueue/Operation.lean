import ManagedQueue.Report
import ManagedQueue.Site

namespace ManagedQueue

abbrev Operation := ExceptT ServiceError Task

structure Settings where
  brokers : List String
  registryAddress : String
  partitions : UInt32
  replications : UInt32
deriving DecidableEq

def Settings.layout (s : Settings) : Layout := ⟨s.partitions, s.replications⟩

/-- How fresh the broker's answer about a topic has to be: of now, or as of the last refresh. -/
inductive Freshness where
  | strict
  | lenient
deriving DecidableEq

namespace Operation

/-- Counts a call against its plan; the answer is the failure if this call is to fail. -/
def planned (c : Call) : Task (Option CollaboratorError) := do
  match (← get).faults c with
  | none => return none
  | some fault =>
    let (hit, rest) := fault.strike
    modify fun s => { s with faults := fun d => if d = c then rest else s.faults d }
    return if hit then some fault.error else none

def attempt {α : Type} (c : Call) (task : Task (Except CollaboratorError α)) :
    Task (Except CollaboratorError α) := do
  match ← planned c with
  | some e => return .error e
  | none => task

def call {α : Type} (c : Call) (failed : CollaboratorError → ServiceError)
    (task : Task (Except CollaboratorError α)) : Operation α := do
  match ← attempt c task with
  | .ok a => return a
  | .error e => throw (failed e)

def ask {α : Type} (c : Call) (failed : CollaboratorError → ServiceError) (task : Task α) :
    Operation α :=
  call c failed (Except.ok <$> task)

def note (level : Level) (component : Component) (text : String) : Operation Unit :=
  Site.note level component text

def requireName (kind value : String) : Operation Unit :=
  match nameFault? value with
  | some fault => throw (.invalidArgument (fault.message kind value))
  | none => return ()

def topicExists (freshness : Freshness) (operation queue : String) : Operation Bool :=
  ask .existTopic (.collaborator operation queue none)
    (Site.existTopic queue (freshness = .strict))

def requireTopic (freshness : Freshness) (operation queue : String) : Operation Unit := do
  if ← topicExists freshness operation queue then return ()
  else throw (.notFound operation queue none)

def queueRecorded (operation queue : String) : Operation Bool :=
  ask .existQueue (.collaborator operation queue none) (Site.existQueue queue)

def queueIndex (s : Site) : NameMap (List String) :=
  s.drift.foldl (fun index e => Metadata.indexed index e.1 e.2) s.backend.metadata.queueMap

def groupIndex (s : Site) : NameMap (List String) :=
  s.drift.foldl (fun index e => Metadata.indexed index e.2 e.1) s.backend.metadata.groupMap

def queueMap (failed : CollaboratorError → ServiceError) : Operation (NameMap (List String)) :=
  ask .queueMap failed (return queueIndex (← get))

def groupMap (failed : CollaboratorError → ServiceError) : Operation (NameMap (List String)) :=
  ask .groupMap failed (return groupIndex (← get))

def groupConfig (operation group queue : String) : Operation (Option GroupRecord) :=
  ask .groupConfig (.collaborator operation queue (some group)) (Site.groupConfig group queue)

end Operation

end ManagedQueue
