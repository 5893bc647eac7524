import ManagedQueue.Logging.Filter
import ManagedQueue.Logging.Line
import ManagedQueue.Program.Error
import ManagedQueue.Program.Files

namespace ManagedQueue

open Text (Bytes)

structure Surroundings (m : Type → Type) where
  /-- Milliseconds since the start of 1970, UTC. -/
  millis : m Int
  /-- Lets so many seconds pass. -/
  wait : UInt64 → m Unit
  isThere : String → m Bool
  read : String → m (Except FileFault Bytes)
  write : String → Bytes → m (Except FileFault Unit)
  /-- Begins an empty file, with the directories above it. -/
  begin : String → m (Except FileFault Unit)
  append : String → String → m Unit
  /-- One line for the user beside the output. -/
  tell : String → m Unit

structure Machine where
  millis : Int
  files : Files := {}
  told : List String := []

namespace Machine

def changeFiles (change : Files → Except FileFault Files) : StateM Machine (Except FileFault Unit) :=
  fun machine =>
    match change machine.files with
    | .ok files => (.ok (), { machine with files })
    | .error fault => (.error fault, machine)

def surroundings : Surroundings (StateM Machine) where
  millis := return (← get).millis
  wait seconds := modify fun machine =>
    { machine with millis := machine.millis + 1000 * seconds.toNat }
  isThere path := return (← get).files.isThere path
  read path := return (← get).files.read path
  write path content := changeFiles (·.write path content)
  begin path := changeFiles (·.create path [])
  append path text := discard <| changeFiles fun files => do
    files.write path ((← files.read path) ++ Text.toBytes text)
  tell line := modify fun machine => { machine with told := machine.told ++ [line] }

end Machine

namespace Surroundings

variable {m : Type → Type} [Monad m]

def seconds (w : Surroundings m) : m Int64 := return Int64.ofInt ((← w.millis).fdiv 1000)

def readText (w : Surroundings m) (path : String) : m (Except FileFault String) := do
  match ← w.read path with
  | .error fault => return .error fault
  | .ok bytes =>
    match Text.ofBytes? bytes with
    | some text => return .ok text
    | none => return .error .notText

end Surroundings

structure Logger where
  filter : Logging.Filter
  style : Logging.LineStyle
  file : Option String

namespace Logger

variable {m : Type → Type} [Monad m]

def put (l : Logger) (w : Surroundings m) (line : String) : m Unit :=
  match l.file with
  | some path => w.append path (line ++ "\n")
  | none => w.tell line

def log (l : Logger) (w : Surroundings m) (journal : Journal) : m Unit := do
  let millis ← w.millis
  let admitted := journal.filter fun r =>
    l.filter.admits (Logging.area r.component) r.level r.text
  admitted.forM fun r => l.put w (l.style.line millis r)

end Logger

end ManagedQueue
