import ManagedQueue.Program.Run
import Std.Time.DateTime.Timestamp

namespace ManagedQueue.Terminal

def fileFault : IO.Error → FileFault
  | .noFileOrDirectory _ _ _ => .missing
  | .inappropriateType _ 20 _ => .notDirectory
  | .inappropriateType _ 21 _ => .isDirectory
  | e => .other (toString e)

def guarded {α : Type} (action : IO α) : IO (Except FileFault α) := do
  try return .ok (← action)
  catch e => return .error (fileFault e)

def isThere (path : String) : IO Bool := do
  match ← guarded (IO.FS.Handle.mk path .read) with
  | .ok _ => return true
  | .error _ => return false

def begin (path : String) : IO Unit := do
  let parent := Files.parent path
  unless parent.isEmpty do IO.FS.createDirAll parent
  IO.FS.writeFile path ""

def append (path text : String) : IO Unit := do
  let handle ← IO.FS.Handle.mk path .append
  handle.putStr text

def pause (seconds : UInt64) : IO Unit :=
  IO.sleep (UInt32.ofNat (min (1000 * seconds.toNat) (UInt32.size - 1)))

def surroundings : Surroundings IO where
  millis := return (← Std.Time.Timestamp.now).toMillisecondsSinceUnixEpoch.val
  wait := pause
  isThere := isThere
  read path := guarded do return (← IO.FS.readBinFile path).toList
  write path content := guarded (IO.FS.writeBinFile path ⟨content.toArray⟩)
  begin path := guarded (begin path)
  append path text := discard (guarded (append path text))
  tell line := IO.eprintln line

def configurationDirectory : IO (Option String) := do
  match ← IO.getEnv "XDG_CONFIG_HOME" with
  | some path => if path.startsWith "/" then return some path
  | none => pure ()
  return (← IO.getEnv "HOME").map (· ++ "/.config")

def context : IO Context := do
  return {
    defaultConfiguration := (← configurationDirectory).map (· ++ defaultConfigurationFile)
    terminal := ← (← IO.getStdout).isTty
    build := {} }

end ManagedQueue.Terminal

def main (arguments : List String) : IO UInt32 := do
  let ending ← ManagedQueue.start ManagedQueue.Terminal.surroundings
    (← ManagedQueue.Terminal.context) arguments
  IO.print ending.printed
  return ending.code
