import ManagedQueue.Event

namespace ManagedQueue

structure Server where
  site : Site
  services : Table Nat Service
  current : Nat := 0
  installed : Option Nat := none
  /-- The service and the ticket of each outstanding receive. -/
  receives : NameMap (Nat × Nat) := ∅
  sessions : NameMap Nat := ∅

abbrev ServerM := StateM Server

namespace Server

def init (site : Site) (settings : Settings) : Server where
  site
  services := (∅ : Table Nat Service).insert 0 { settings }

def onService {α : Type} (n : Nat) (action : HostM α) : ServerM (Option α) := fun p =>
  match p.services.get? n with
  | none => (none, p)
  | some service =>
    let (a, h) := action { site := p.site, service }
    (some a, { p with site := h.site, services := p.services.insert n h.service })

def onSite {α : Type} (task : Task α) : ServerM α := fun p =>
  let (a, site) := task p.site
  (a, { p with site })

def request (r : Request) : ServerM (Option Outcome) := do
  onService (← get).current (Host.perform r)

def cancel (name : String) : ServerM Bool := do
  match (← get).receives.get? name with
  | none => return false
  | some (n, ticket) =>
    discard (onService n (Host.cancel ticket))
    modify fun p => { p with receives := p.receives.erase name }
    return true

/-- A receive that waits keeps its name; an earlier one of that name is given up first. -/
def start (name queue group : String) : ServerM (Option Outcome) := do
  discard (cancel name)
  let n := (← get).current
  match ← onService n (Host.start queue group) with
  | none => return none
  | some (ticket, answer) =>
    if let .pending := answer then
      modify fun p => { p with receives := p.receives.insert name (n, ticket) }
    return some (Host.received answer)

def poll (name : String) : ServerM (Option Outcome) := do
  match (← get).receives.get? name with
  | none => return none
  | some (n, ticket) =>
    match (← onService n (Host.poll ticket)).join with
    | some .pending => return some .pending
    | answer =>
      modify fun p => { p with receives := p.receives.erase name }
      return answer.map Host.received

def openSession (name : String) (addresses : List String) (queue group : String) :
    ServerM (Except CollaboratorError Unit) := do
  match ← onSite (Site.openSession addresses queue group) with
  | .error e => return .error e
  | .ok session =>
    modify fun p => { p with sessions := p.sessions.insert name session }
    return .ok ()

def session? (name : String) : ServerM (Option Nat) := return (← get).sessions.get? name

def newService (settings : Settings) : ServerM Unit :=
  modify fun p => { p with
    services := p.services.insert p.services.size { settings }
    current := p.services.size }

def install : ServerM Bool := do
  let replaced := (← get).installed.isSome
  modify fun p => { p with installed := some p.current }
  return replaced

def installedIsCurrent : ServerM (Option Bool) :=
  return (← get).installed.map (· = (← get).current)

/-- Empties the slot and then closes the sessions of the service that was in it. -/
def uninstall : ServerM (Poll Bool) := do
  match (← get).installed with
  | none => return .ready false
  | some n =>
    modify fun p => { p with installed := none }
    match ← onService n Host.shutdown with
    | some .pending => return .pending
    | _ => return .ready true

end Server

end ManagedQueue
