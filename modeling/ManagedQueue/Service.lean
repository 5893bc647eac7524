import ManagedQueue.Operation

namespace ManagedQueue

inductive Stage where
  /-- Asked for the lock. -/
  | inLine
  /-- Has the lock; its session is being opened. -/
  | opening
  /-- Has its session; last looked at the log after this many wakeups. -/
  | waiting (session : Nat) (wakeups : Nat)
deriving DecidableEq

structure Receive where
  queue : String
  group : String
  stage : Stage
deriving DecidableEq

/-- Receives are known by their tickets. The lock is handed on in the order in which it was asked for; who has
been handed it owns it at once, though it learns so only when it is polled. -/
structure Lock where
  owner : Option Nat := none
  line : List Nat := []
deriving DecidableEq

namespace Lock

def ask (l : Lock) (ticket : Nat) : Lock :=
  match l.owner with
  | none => { l with owner := some ticket }
  | some _ => { l with line := l.line ++ [ticket] }

def handOn (l : Lock) : Lock :=
  match l.line with
  | [] => { owner := none }
  | ticket :: line => { owner := some ticket, line }

def leave (l : Lock) (ticket : Nat) : Lock :=
  if l.owner = some ticket then l.handOn
  else { l with line := l.line.filter (· ≠ ticket) }

end Lock

structure Service where
  settings : Settings
  sessions : NameMap Nat := ∅
  lock : Lock := {}
  receives : Table Nat Receive := ∅
  nextTicket : Nat := 0

/-- The answer of a call that may have to wait. -/
inductive Poll (α : Type) where
  | pending
  | ready (answer : α)
deriving DecidableEq

structure Host where
  site : Site := {}
  service : Service

abbrev HostM := StateM Host

namespace Host

def onSite {α : Type} (task : Task α) : HostM α := fun h =>
  let (a, site) := task h.site
  (a, { h with site })

def run {α : Type} (operation : Operation α) : HostM (Except ServiceError α) := onSite operation

def modifyService (f : Service → Service) : HostM Unit :=
  modify fun h => { h with service := f h.service }

def receiveOp : String := "ReceiveMessage"

def failed (r : Receive) : CollaboratorError → ServiceError :=
  .collaborator receiveOp r.queue (some r.group)

def setReceive (ticket : Nat) (r : Receive) : HostM Unit :=
  modifyService fun s => { s with receives := s.receives.insert ticket r }

def dropReceive (ticket : Nat) : HostM Unit :=
  modifyService fun s => { s with receives := s.receives.erase ticket }

def leaveLock (ticket : Nat) : HostM Unit :=
  modifyService fun s => { s with lock := s.lock.leave ticket }

def finish {α : Type} (ticket : Nat) (answer : α) : HostM (Poll α) := do
  dropReceive ticket
  return .ready answer

def suspend {α : Type} (ticket : Nat) (r : Receive) (stage : Stage) : HostM (Poll α) := do
  setReceive ticket { r with stage }
  return .pending

abbrev Received := Except ServiceError Payload

/-- Looks at the log; without a message the receive waits for the next wakeup. -/
def lookNow (ticket : Nat) (r : Receive) (session : Nat) : HostM (Poll Received) := do
  match ← onSite (Site.look session) with
  | .error e => finish ticket (.error (failed r e))
  | .ok none => suspend ticket r (.waiting session (← get).site.backend.transport.wakeups)
  | .ok (some payload) =>
    onSite (Site.record .receive r.queue r.group 1)
    onSite (Site.note .debug .gateway
      s!"received {payload.length} bytes from {sessionKey r.queue r.group}")
    finish ticket (.ok payload)

def listen (ticket : Nat) (r : Receive) (session : Nat) : HostM (Poll Received) := do
  -- The call counts against its plan here, once, and not at every look.
  match ← onSite (Operation.planned .receive) with
  | some e => finish ticket (.error (failed r e))
  | none => lookNow ticket r session

inductive Acquisition where
  | waits
  | found (session : Nat)
  | opened (session : Nat)
  | refused (e : CollaboratorError)
deriving DecidableEq

def openNow (ticket : Nat) (r : Receive) : HostM Acquisition := do
  let brokers := (← get).service.settings.brokers
  match ← onSite (Operation.attempt .openSession (Site.openSession brokers r.queue r.group)) with
  | .error e =>
    -- Nothing is cached, so whoever comes next opens for itself.
    leaveLock ticket
    return .refused e
  | .ok session =>
    let key := sessionKey r.queue r.group
    modifyService fun s => { s with sessions := s.sessions.insert key session }
    onSite (Site.note .debug .sessions
      s!"cached consumer session {key} ({(← get).service.sessions.size} live)")
    leaveLock ticket
    return .opened session

def tryOpen (ticket : Nat) (r : Receive) : HostM Acquisition := do
  if (← get).site.gateShut then
    -- The lock is kept while the opening waits.
    setReceive ticket { r with stage := .opening }
    return .waits
  else openNow ticket r

/-- With the lock, takes the cached session or opens one. The lock is given back with the answer,
and kept while the session is being opened. -/
def acquire (ticket : Nat) (r : Receive) : HostM Acquisition := do
  if r.stage = .opening then tryOpen ticket r
  else if (← get).service.lock.owner = some ticket then
    match (← get).service.sessions.get? (sessionKey r.queue r.group) with
    | some session =>
      leaveLock ticket
      return .found session
    | none => tryOpen ticket r
  else return .waits

def advance (ticket : Nat) (r : Receive) : HostM (Poll Received) := do
  match r.stage with
  | .waiting session wakeups =>
    -- Nothing was produced or closed since the last look, so another one would find nothing either.
    if (← get).site.backend.transport.wakeups = wakeups then return .pending
    else lookNow ticket r session
  | _ =>
    match ← acquire ticket r with
    | .waits => return .pending
    | .found session | .opened session => listen ticket r session
    | .refused e => finish ticket (.error (failed r e))

def poll (ticket : Nat) : HostM (Option (Poll Received)) := do
  match (← get).service.receives.get? ticket with
  | none => return none
  | some r => some <$> advance ticket r

def cancel (ticket : Nat) : HostM Bool := do
  if (← get).service.receives.contains ticket then
    dropReceive ticket
    -- Its place in the line is free again, or the lock if it had that.
    leaveLock ticket
    return true
  else return false

def checkReceive (queue group : String) : Operation Unit := do
  Operation.requireName "Queue" queue
  Operation.requireName "Group" group
  Operation.requireTopic .lenient receiveOp queue

/-- A receive that passes its checks asks for the lock. The number is its ticket. -/
def enter (queue group : String) : HostM (Nat × Except ServiceError Receive) := do
  let ticket := (← get).service.nextTicket
  -- A ticket is spent even if the receive is refused.
  modifyService fun s => { s with nextTicket := ticket + 1 }
  match ← run (checkReceive queue group) with
  | .error e => return (ticket, .error e)
  | .ok () =>
    let r : Receive := { queue, group, stage := .inLine }
    setReceive ticket r
    modifyService fun s => { s with lock := s.lock.ask ticket }
    return (ticket, .ok r)

def start (queue group : String) : HostM (Nat × Poll Received) := do
  match ← enter queue group with
  | (ticket, .error e) => return (ticket, .ready (.error e))
  | (ticket, .ok r) => return (ticket, ← advance ticket r)

/-- A receive that is polled once and given up if it has to wait. -/
def receive (queue group : String) : HostM (Poll Received) := do
  let (ticket, answer) ← start queue group
  if let .pending := answer then discard (cancel ticket)
  return answer

def send (queue group : String) (payload : Payload) : Operation Unit := do
  let op := "SendMessage"
  Operation.requireName "Queue" queue
  Operation.requireName "Group" group
  Operation.requireTopic .lenient op queue
  Operation.call .produce (.collaborator op queue (some group)) (Site.produce queue payload)
  -- Counted only once the transport has the message.
  liftM (Site.record .send queue group 1)
  Operation.note .debug .gateway s!"sent {payload.length} bytes to {sessionKey queue group}"

def locked {α : Type} (action : HostM α) : HostM (Poll α) := do
  if (← get).service.lock.owner.isSome then return .pending
  else return .ready (← action)

def sessionCount : HostM (Poll Nat) := locked (return (← get).service.sessions.size)

def closeNow (session : Nat) : Task (Except CollaboratorError Unit) :=
  Operation.attempt .close (Except.ok <$> Site.closeSession session)

/-- The session leaves the table even if closing it fails. -/
def closeSession (queue group : String) : HostM (Poll (Except ServiceError Bool)) := locked do
  let key := sessionKey queue group
  match (← get).service.sessions.get? key with
  | none => return .ok false
  | some session =>
    modifyService fun s => { s with sessions := s.sessions.erase key }
    match ← onSite (closeNow session) with
    | .error e => return .error (.collaborator "CloseSession" queue (some group) e)
    | .ok () =>
      onSite (Site.note .debug .sessions s!"closed consumer session {key}")
      return .ok true

def closeEach : List (String × Nat) → Task (List (String × Except CollaboratorError Unit))
  | [] => return []
  | (key, session) :: rest => do
    let answer ← closeNow session
    return (key, answer) :: (← closeEach rest)

def countClosed : List (String × Except CollaboratorError Unit) → Task Nat
  | [] => return 0
  | (_, .ok ()) :: rest => return (← countClosed rest) + 1
  | (key, .error e) :: rest => do
    Site.note .warn .sessions s!"failed to close consumer session {key}: {e.message}"
    countClosed rest

/-- No order of the closings is promised; here it is that of the keys. Neither the answer nor the count depends
on it. Where only some of the closings are planned to fail, it decides which sessions they are. -/
def shutdown : HostM (Poll Unit) := locked do
  let sessions := (← get).service.sessions
  modifyService fun s => { s with sessions := ∅ }
  let closed ← onSite do countClosed (← closeEach sessions.entries)
  if 0 < closed then
    onSite (Site.note .debug .sessions s!"closed {closed} consumer session(s)")
  onSite (Site.note .debug .service s!"queue service shut down, {closed} session(s) closed")

end Host

end ManagedQueue
