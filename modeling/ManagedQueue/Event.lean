import ManagedQueue.Direct
import ManagedQueue.Request

namespace ManagedQueue

inductive Condition where
  | clock (now : Int64)
  | fault (call : Call) (fault : Fault)
  | heal (call : Call)
  | drift (queue group : String)
  | gate (shut : Bool)

inductive Event where
  | request (r : Request)
  | start (queue group : String)
  | poll (ticket : Nat)
  | cancel (ticket : Nat)
  | direct (d : Direct)
  | condition (c : Condition)

inductive Reply where
  | outcome (o : Outcome)
  | started (ticket : Nat) (o : Outcome)
  | noTicket
  | datum (d : Except CollaboratorError Datum)
  | applied (found : Bool)

namespace Site

/-- The answer says whether there was something to change; only healing may find nothing. -/
def apply : Condition → Task Bool
  | .clock now => do
    modify fun s => { s with backend := { s.backend with clock := now } }
    return true
  | .fault call fault => do
    modify fun s => { s with faults := fun c => if c = call then some fault else s.faults c }
    return true
  | .heal call => do
    let found := ((← get).faults call).isSome
    modify fun s => { s with faults := fun c => if c = call then none else s.faults c }
    return found
  | .drift queue group => do
    modify fun s => { s with drift := s.drift ++ [(queue, group)] }
    return true
  | .gate shut => do
    modify fun s => { s with gateShut := shut }
    return true

end Site

namespace Host

def received (p : Poll Received) : Outcome := p.map (·.map .payload)

def step : Event → HostM Reply
  | .request r => return .outcome (← perform r)
  | .start queue group => do
    let (ticket, answer) ← start queue group
    return .started ticket (received answer)
  | .poll ticket => do
    match ← poll ticket with
    | none => return .noTicket
    | some answer => return .outcome (received answer)
  | .cancel ticket => return .applied (← cancel ticket)
  | .direct d => return .datum (← onSite (Site.perform d))
  | .condition c => return .applied (← onSite (Site.apply c))

def steps : List Event → Host → List Reply × Host
  | [], h => ([], h)
  | e :: es, h =>
    let (reply, next) := step e h
    let (replies, last) := steps es next
    (reply :: replies, last)

end Host

end ManagedQueue
