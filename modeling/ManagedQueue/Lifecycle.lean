import ManagedQueue.Operation

namespace ManagedQueue.Lifecycle

open Operation

def recordNew (queue : String) : Operation Unit := do
  let op := "CreateQueue"
  requireName "Queue" queue
  if ← topicExists .strict op queue then throw (.alreadyExists op queue)
  if ← queueRecorded op queue then throw (.alreadyExists op queue)
  -- From here on the queue is recorded, whatever becomes of the second write.
  call .addQueue (.collaborator op queue none) (Site.addQueue queue)

/-- The write to the broker; if it fails, an error is logged and the first write is left in place. -/
def secondWrite (c : Call) (op queue : String) (task : Task (Except CollaboratorError Unit))
    (complaint : CollaboratorError → String) (report : String) : Operation Unit := do
  match ← attempt c task with
  | .error e =>
    note .error .lifecycle (complaint e)
    throw (.collaborator op queue none e)
  | .ok () => note .info .lifecycle report

def provision (settings : Settings) (queue : String) : Operation Unit :=
  secondWrite .createTopic "CreateQueue" queue
    (Site.createTopic queue settings.layout settings.registryAddress)
    (fun e => s!"queue '{queue}' recorded in metadata but broker topic creation failed: {e.message}")
    s!"created queue '{queue}' ({settings.partitions} partitions, {settings.replications} replicas)"

def create (settings : Settings) (queue : String) : Operation Unit := do
  recordNew queue
  provision settings queue

/-- No attribute of a queue can be changed yet. -/
def update (queue : String) : Operation Unit := do
  requireName "Queue" queue
  requireTopic .strict "UpdateQueue" queue

def unrecord (queue : String) : Operation Unit := do
  let op := "DeleteQueue"
  requireName "Queue" queue
  requireTopic .strict op queue
  if !(← queueRecorded op queue) then throw (.notFound op queue none)
  -- From here on the queue is not recorded, whatever becomes of the second write.
  call .deleteQueue (.collaborator op queue none) (Site.deleteQueue queue)

def withdraw (settings : Settings) (queue : String) : Operation Unit :=
  secondWrite .deleteTopic "DeleteQueue" queue (Site.deleteTopic queue settings.registryAddress)
    (fun e => s!"queue '{queue}' removed from metadata but broker topic deletion failed: {e.message}")
    s!"deleted queue '{queue}'"

def delete (settings : Settings) (queue : String) : Operation Unit := do
  unrecord queue
  withdraw settings queue

/-- A group that the index names without a record is left out, with a warning. -/
def groupConfigs (op queue : String) : List String → Operation (List GroupConfig)
  | [] => return []
  | group :: groups => do
    match ← groupConfig op group queue with
    | some record => return record.underQueue :: (← groupConfigs op queue groups)
    | none =>
      note .warn .lifecycle s!"config is missing for queue '{queue}', group '{group}'"
      groupConfigs op queue groups

def queueInfo (op queue : String) (groups : List GroupConfig) : Operation QueueInfo := do
  let ctime ← call .queueCreateTime (.collaborator op queue none) (Site.queueCreateTime queue)
  return { queue, ctime, length := 0, groups }

def queueInfos (op : String) : List (String × List String) → Operation (List QueueInfo)
  | [] => return []
  | (queue, groups) :: rest => do
    let configs ← groupConfigs op queue groups
    let info ← queueInfo op queue configs
    return info :: (← queueInfos op rest)

/-- An empty queue stands for all queues, whatever the group; an empty group for all groups of
the queue. A queue that is not recorded gives an empty list. -/
def lookup (queue group : String) : Operation (List QueueInfo) := do
  let op := "LookupQueue"
  note .debug .lifecycle s!"lookup queue='{queue}' group='{group}'"
  -- All queues and one queue are read off the index, a pair off its record.
  if queue.isEmpty then
    let index ← queueMap (.collaborator op "*" none)
    queueInfos op index.entries
  else if group.isEmpty then
    let index ← queueMap (.collaborator op queue none)
    match index.get? queue with
    | none => return []
    | some groups => queueInfos op [(queue, groups)]
  else if ← queueRecorded op queue then
    let record ← groupConfig op group queue
    let info ← queueInfo op queue (record.map (·.underQueue)).toList
    return [info]
  else return []

def differences (recorded topics : List String) : List Finding :=
  let found : NameMap Inconsistency := .ofList
    ((recorded.filter (!topics.contains ·)).map (·, .metadataOnly) ++
      (topics.filter (!recorded.contains ·)).map (·, .brokerOnly))
  found.entries.map fun e => ⟨e.1, e.2⟩

def warnAll : List Finding → Operation Unit
  | [] => return ()
  | f :: rest => do
    note .warn .lifecycle s!"queue '{f.queue}' is inconsistent: {f.state.name}"
    warnAll rest

def audit : Operation (List Finding) := do
  let op := "AuditQueues"
  -- The list of topics is renewed first, so a stale one cannot be reported as a difference.
  let topics ← ask .listTopics (.collaborator op "*" none) (Site.listTopics true)
  let index ← queueMap (.collaborator op "*" none)
  let findings := differences index.keys topics
  warnAll findings
  return findings

end ManagedQueue.Lifecycle
