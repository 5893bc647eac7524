import ManagedQueue.Groups
import ManagedQueue.Lifecycle
import ManagedQueue.Service
import ManagedQueue.Volume

namespace ManagedQueue

inductive Request where
  | createQueue (queue : String)
  | updateQueue (queue : String)
  | deleteQueue (queue : String)
  | lookupQueue (queue group : String)
  | addGroup (group queue : String) (access : Access)
  | updateGroup (group queue : String) (access : Access)
  | deleteGroup (group queue : String)
  | lookupGroup (group : String)
  | getGroup (group queue : String)
  | send (queue group : String) (payload : Payload)
  | receive (queue group : String)
  | acknowledge (queue group : String)
  | volume (direction : Direction) (queue group : String) (window : Window)
  | audit
  | sessionCount
  | closeSession (queue group : String)
  | shutdown
deriving DecidableEq

inductive Answer where
  | done
  | queues (infos : List QueueInfo)
  | groups (infos : List GroupInfo)
  | group (config : Option GroupConfig)
  | payload (bytes : Payload)
  | series (s : Series)
  | findings (fs : List Finding)
  | count (n : Nat)
  | closed (existed : Bool)
deriving DecidableEq

abbrev Outcome := Poll (Except ServiceError Answer)

namespace Poll

def map {α β : Type} (f : α → β) : Poll α → Poll β
  | .pending => .pending
  | .ready a => .ready (f a)

end Poll

namespace Host

def atOnce {α : Type} (answer : α → Answer) (operation : Operation α) : HostM Outcome := do
  return .ready ((← run operation).map answer)

def perform : Request → HostM Outcome
  | .createQueue queue => do
    atOnce (fun _ => .done) (Lifecycle.create (← get).service.settings queue)
  | .updateQueue queue => atOnce (fun _ => .done) (Lifecycle.update queue)
  | .deleteQueue queue => do
    atOnce (fun _ => .done) (Lifecycle.delete (← get).service.settings queue)
  | .lookupQueue queue group => atOnce .queues (Lifecycle.lookup queue group)
  | .addGroup group queue access => atOnce (fun _ => .done) (Groups.add group queue access)
  | .updateGroup group queue access => atOnce (fun _ => .done) (Groups.update group queue access)
  | .deleteGroup group queue => atOnce (fun _ => .done) (Groups.delete group queue)
  | .lookupGroup group => atOnce .groups (Groups.lookup group)
  | .getGroup group queue => atOnce .group (Groups.single group queue)
  | .send queue group payload => atOnce (fun _ => .done) (send queue group payload)
  | .receive queue group => return (← receive queue group).map (·.map .payload)
  | .acknowledge _ _ => return .ready (.error (.notImplemented "AckMessage"))
  | .volume direction queue group window =>
    atOnce .series (Volume.query direction queue group window)
  | .audit => atOnce .findings Lifecycle.audit
  | .sessionCount => return (← sessionCount).map (.ok <| .count ·)
  | .closeSession queue group => return (← closeSession queue group).map (·.map .closed)
  | .shutdown => return (← shutdown).map fun _ => .ok .done

end Host

end ManagedQueue
