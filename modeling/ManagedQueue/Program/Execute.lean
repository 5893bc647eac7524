import ManagedQueue.Configuration
import ManagedQueue.Program.Dispatch
import ManagedQueue.Program.Surroundings
import ManagedQueue.StateFile

namespace ManagedQueue

open CommandLine (Command)

structure Setting where
  configuration : Configuration
  stateFile : Option String
  presentation : Presentation
  build : Build

variable {m : Type → Type} [Monad m]

/-- Without a state file that is there, the state is empty. -/
def loadState (w : Surroundings m) (log : Journal → m Unit) :
    Option String → m (Except ProgramError Backend)
  | none => return .ok (.fresh (← w.seconds))
  | some path => do
    match ← w.readText path with
    | .error .missing =>
      log [⟨.debug, .stateFile, s!"no state file at {path}, starting empty"⟩]
      return .ok (.fresh (← w.seconds))
    | .error fault =>
      return .error (.state ⟨.unavailable, s!"cannot read state file {path}: {fault.message}"⟩)
    | .ok text =>
      match Snapshot.read? text with
      | none => return .error (.state ⟨.internal, s!"corrupt state file {path}"⟩)
      | some snapshot =>
        log [⟨.debug, .stateFile, s!"loaded state from {path}"⟩]
        return .ok (snapshot.restore (← w.seconds))

def saveState (w : Surroundings m) (path : String) (b : Backend) :
    m (Except CollaboratorError Unit) := do
  match ← w.write path (Text.toBytes b.snapshot.write) with
  | .ok () => return .ok ()
  | .error fault =>
    return .error ⟨.unavailable, s!"cannot write state file {path}: {fault.message}"⟩

/-- The command's failure counts more than a failure to save. -/
def settleSave (log : Journal → m Unit) (path : String) (result : Except ProgramError String) :
    Except CollaboratorError Unit → m (Except ProgramError String)
  | .ok () => return result
  | .error e => do
    match result with
    | .ok _ => return .error (.state e)
    | .error _ =>
      log [⟨.error, .startup, s!"cannot save state to {path}: {e.message}"⟩]
      return result

def outcome (p : Presentation) (c : Command) : Option Outcome → Except ProgramError String
  | some (.ready (.ok answer)) => .ok (p.output c answer)
  | some (.ready (.error e)) => .error (.service e)
  | _ => .error c.unanswered

/-- A command that has to wait waits until its time is over: nothing else runs that could end
its waiting. -/
def letPass (w : Surroundings m) : Command → Option Outcome → m Unit
  | .receive _ _ timeout, some .pending => w.wait timeout
  | _, _ => return ()

def serve (w : Surroundings m) (s : Setting) (c : Command) (r : Request) (b : Backend) :
    m (Except ProgramError String × Server) := do
  let start := Server.init { backend := b } s.configuration.settings
  let (answer, server) := (do discard Server.install; Server.request r : ServerM _) start
  letPass w c answer
  let (_, server) := Server.uninstall server
  return (outcome s.presentation c answer, server)

def execute (w : Surroundings m) (log : Journal → m Unit) (s : Setting) (c : Command) :
    m (Except ProgramError String) := do
  match c.request? (← w.seconds), s.configuration.fault? with
  | none, _ => return .ok s.build.versionLine
  | some _, some fault => return .error (.invalidConfiguration fault.message)
  | some r, none =>
    match ← loadState w log s.stateFile with
    | .error e => return .error e
    | .ok b =>
      let (result, server) ← serve w s c r b
      -- The log of the service goes out before the state is saved, whose failure is logged after it.
      log server.site.journal
      match s.stateFile with
      | none => return result
      | some path => settleSave log path result (← saveState w path server.site.backend)

end ManagedQueue
