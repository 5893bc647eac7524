import ManagedQueue.Operation

namespace ManagedQueue.Volume

open Operation

def operationName : Direction → String
  | .send => "GetSendMetrics"
  | .receive => "GetReceiveMetrics"

def requireWindow (w : Window) : Operation Unit :=
  match w.fault? with
  | some fault => throw (.invalidArgument (fault.message w))
  | none => return ()

/-- An empty group sums over all groups of the queue. -/
def query (direction : Direction) (queue group : String) (w : Window) : Operation Series := do
  let op := operationName direction
  requireName "Queue" queue
  if !group.isEmpty then requireName "Group" group
  requireWindow w
  requireTopic .strict op queue
  let context := if group.isEmpty then none else some group
  let series ← call .query (.collaborator op queue context) (Site.query direction queue group w)
  note .debug .metrics
    s!"{direction.name} {sessionKey queue group} [{w.start}, {w.stop}) -> {series.total} total in {series.buckets.length} buckets"
  return series

end ManagedQueue.Volume
