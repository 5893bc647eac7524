import ManagedQueue.Table
import ManagedQueue.Text.Bytes

namespace ManagedQueue

inductive FileFault where
  | missing
  | notDirectory
  | isDirectory
  | hasNul
  | notText
  | other (text : String)
deriving DecidableEq

def FileFault.message : FileFault → String
  | .missing => "No such file or directory (os error 2)"
  | .notDirectory => "Not a directory (os error 20)"
  | .isDirectory => "Is a directory (os error 21)"
  | .hasNul => "file name contained an unexpected NUL byte"
  | .notText => "stream did not contain valid UTF-8"
  | .other text => text

inductive FileEntry where
  | file (content : Text.Bytes)
  | directory
deriving DecidableEq

structure Files where
  /-- The path from the root is the key; the root itself is not listed. -/
  entries : NameMap FileEntry := ∅
  workingDirectory : List String := []

namespace Files

def parts : List Char → List Char → List String
  | seen, [] => [String.ofList seen.reverse]
  | seen, '/' :: cs => String.ofList seen.reverse :: parts [] cs
  | seen, c :: cs => parts (c :: seen) cs

def keyOf (place : List String) : String := String.intercalate "/" place

def entry? (f : Files) (place : List String) : Option FileEntry :=
  if place.isEmpty then some .directory else f.entries.get? (keyOf place)

/-- What is below a place can only be named if the place is a directory. -/
def enter (f : Files) (place : List String) : Except FileFault Unit :=
  match f.entry? place with
  | some .directory => .ok ()
  | some (.file _) => .error .notDirectory
  | none => .error .missing

def walk (f : Files) : List String → List String → Except FileFault (List String)
  | place, [] => .ok place
  | place, part :: rest => do
    f.enter place
    if part.isEmpty || part = "." then f.walk place rest
    -- The directory above the root is the root.
    else if part = ".." then f.walk place.dropLast rest
    else f.walk (place ++ [part]) rest

def place (f : Files) (path : String) : Except FileFault (List String) :=
  if path.isEmpty then .error .missing
  else if path.toList.contains '\x00' then .error .hasNul
  else
    match path.toList with
    | '/' :: cs => f.walk [] (parts [] cs)
    | cs => f.walk f.workingDirectory (parts [] cs)

def isThere (f : Files) (path : String) : Bool :=
  match f.place path with
  | .ok place => (f.entry? place).isSome
  | .error _ => false

def read (f : Files) (path : String) : Except FileFault Text.Bytes := do
  match f.entry? (← f.place path) with
  | some (.file content) => .ok content
  | some .directory => .error .isDirectory
  | none => .error .missing

def put (f : Files) (place : List String) (e : FileEntry) : Files :=
  { f with entries := f.entries.insert (keyOf place) e }

def write (f : Files) (path : String) (content : Text.Bytes) : Except FileFault Files := do
  let place ← f.place path
  match f.entry? place with
  | some .directory => .error .isDirectory
  | _ => .ok (f.put place (.file content))

def makeDirectories (f : Files) : List String → List String → Except FileFault Files
  | _, [] => .ok f
  | place, part :: rest =>
    -- A directory is made where there is nothing; the rest of the path may lead up again.
    let place := if part.isEmpty || part = "." then place
      else if part = ".." then place.dropLast else place ++ [part]
    match f.entry? place with
    | some .directory => f.makeDirectories place rest
    | some (.file _) => .error .notDirectory
    | none => (f.put place .directory).makeDirectories place rest

def makeDirectory (f : Files) (path : String) : Except FileFault Files :=
  match path.toList with
  | '/' :: cs => f.makeDirectories [] (parts [] cs)
  | cs => f.makeDirectories f.workingDirectory (parts [] cs)

def parent (path : String) : String :=
  let cs := path.toList.reverse.dropWhile (· ≠ '/')
  String.ofList (if cs.length = 1 then cs else cs.tail).reverse

def create (f : Files) (path : String) (content : Text.Bytes) : Except FileFault Files := do
  (← f.makeDirectory (parent path)).write path content

end Files

end ManagedQueue
