import ManagedQueue.Failure
import ManagedQueue.Table

namespace ManagedQueue

structure GroupRecord where
  group : String
  queue : String
  write : Bool
  read : Bool
  url : String
  ips : List String
deriving DecidableEq

/-- The records of groups lie under their queue, so they go with it. -/
structure QueueEntry where
  ctime : Int64
  groups : NameMap GroupRecord := ∅
deriving DecidableEq

structure Metadata where
  queues : NameMap QueueEntry := ∅
deriving DecidableEq

namespace Metadata

def exist (m : Metadata) (queue : String) : Bool := m.queues.contains queue

def addQueue (m : Metadata) (queue : String) (now : Int64) : Except CollaboratorError Metadata :=
  if m.exist queue then .error ⟨.conflict, s!"queue '{queue}'"⟩
  else .ok { m with queues := m.queues.insert queue { ctime := now } }

def deleteQueue (m : Metadata) (queue : String) : Except CollaboratorError Metadata :=
  if m.exist queue then .ok { m with queues := m.queues.erase queue }
  else .error (.missingQueue queue)

def createTime (m : Metadata) (queue : String) : Except CollaboratorError Int64 :=
  match m.queues.get? queue with
  | some entry => .ok entry.ctime
  | none => .error (.missingQueue queue)

def record? (m : Metadata) (group queue : String) : Option GroupRecord :=
  (m.queues.get? queue).bind (·.groups.get? group)

def queueMap (m : Metadata) : NameMap (List String) :=
  m.queues.mapValues fun _ entry => entry.groups.keys

def indexed (index : NameMap (List String)) (key name : String) : NameMap (List String) :=
  index.insert key (index.getD key [] ++ [name])

def groupMap (m : Metadata) : NameMap (List String) :=
  m.queues.entries.foldl
    (fun index e => e.2.groups.keys.foldl (fun index group => indexed index group e.1) index) ∅

def putRecord (m : Metadata) (entry : QueueEntry) (r : GroupRecord) : Metadata :=
  { m with queues := m.queues.insert r.queue { entry with groups := entry.groups.insert r.group r } }

def addGroup (m : Metadata) (r : GroupRecord) : Except CollaboratorError Metadata :=
  match m.queues.get? r.queue with
  | none => .error (.missingQueue r.queue)
  | some entry =>
    if entry.groups.contains r.group then
      .error ⟨.conflict, s!"group '{r.group}' on queue '{r.queue}'"⟩
    else .ok (m.putRecord entry r)

def updateGroup (m : Metadata) (r : GroupRecord) : Except CollaboratorError Metadata :=
  match m.queues.get? r.queue with
  | none => .error (.missingQueue r.queue)
  | some entry =>
    if entry.groups.contains r.group then .ok (m.putRecord entry r)
    else .error (.missingGroup r.group r.queue)

def deleteGroup (m : Metadata) (group queue : String) : Except CollaboratorError Metadata :=
  match m.queues.get? queue with
  | none => .error (.missingQueue queue)
  | some entry =>
    if entry.groups.contains group then
      .ok { m with queues := m.queues.insert queue { entry with groups := entry.groups.erase group } }
    else .error (.missingGroup group queue)

def groupCount (m : Metadata) : Nat :=
  m.queues.entries.foldl (fun n e => n + e.2.groups.size) 0

end Metadata

end ManagedQueue
