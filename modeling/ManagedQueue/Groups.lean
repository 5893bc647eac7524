import ManagedQueue.Operation

namespace ManagedQueue.Groups

open Operation

def checkNames (op group queue : String) : Operation Unit := do
  requireName "Group" group
  requireName "Queue" queue
  requireTopic .strict op queue

def add (group queue : String) (access : Access) : Operation Unit := do
  let op := "AddGroup"
  checkNames op group queue
  call .addGroupConfig (.collaborator op queue (some group))
    (Site.addGroupConfig (.ofAccess group queue access))
  note .info .groups
    s!"added group '{group}' to queue '{queue}' (write={access.write}, read={access.read})"

def update (group queue : String) (access : Access) : Operation Unit := do
  let op := "UpdateGroup"
  checkNames op group queue
  call .updateGroupConfig (.collaborator op queue (some group))
    (Site.updateGroupConfig (.ofAccess group queue access))
  note .info .groups
    s!"updated group '{group}' on queue '{queue}' (write={access.write}, read={access.read})"

def delete (group queue : String) : Operation Unit := do
  let op := "DeleteGroup"
  checkNames op group queue
  call .deleteGroupConfig (.collaborator op queue (some group))
    (Site.deleteGroupConfig group queue)
  note .info .groups s!"deleted group '{group}' from queue '{queue}'"

def queueConfigs (op group : String) : List String → Operation (List GroupConfig)
  | [] => return []
  | queue :: queues => do
    match ← groupConfig op group queue with
    | some record => return record.underGroup :: (← queueConfigs op group queues)
    -- The index named the queue, but there is no record.
    | none =>
      note .warn .groups s!"config is missing for group '{group}', queue '{queue}'"
      queueConfigs op group queues

def groupInfos (op : String) : List (String × List String) → Operation (List GroupInfo)
  | [] => return []
  | (group, queues) :: rest => do
    let configs ← queueConfigs op group queues
    return { group, queues := configs } :: (← groupInfos op rest)

/-- An empty group stands for all groups; an unknown one gives an empty list. -/
def lookup (group : String) : Operation (List GroupInfo) := do
  let op := "LookupGroup"
  note .debug .groups s!"lookup group='{group}'"
  let index ← groupMap (.collaborator op "*" none)
  groupInfos op (index.filterKeys fun name => group.isEmpty || name = group).entries

def single (group queue : String) : Operation (Option GroupConfig) := do
  let op := "GetSingleGroup"
  checkNames op group queue
  let record ← groupConfig op group queue
  let found := if record.isSome then "found" else "absent"
  note .debug .groups s!"group '{group}' @ queue '{queue}': {found}"
  return record.map (·.inFull)

end ManagedQueue.Groups
