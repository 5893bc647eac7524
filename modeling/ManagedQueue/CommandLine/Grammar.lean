namespace ManagedQueue.CommandLine

/-- Why no command was read. A request for help or for the version counts as a reason. -/
inductive Refusal where
  | unknownArgument
  | unknownCommand
  | missingCommand
  | missingWord
  | repeated
  | badValue
  | unreadableValue
  | unwantedValue
  | help
  | version
  /-- There are no arguments at all. -/
  | empty
deriving DecidableEq

def Refusal.message : Refusal → String
  | .unknownArgument => "there is an argument that is not known"
  | .unknownCommand => "the command is not known"
  | .missingCommand => "a command is missing"
  | .missingWord => "the command needs more arguments"
  | .repeated => "an option is given more than once"
  | .badValue => "an option has a value that is not allowed, or none"
  | .unreadableValue => "a number cannot be read"
  | .unwantedValue => "a flag has a value"
  | .help => "help is asked for"
  | .version => "the version is asked for"
  | .empty => "there are no arguments"

inductive Effect (σ : Type) where
  | flag (set : σ → Except Refusal σ)
  /-- If `anything` is set, the next argument is the value whatever it looks like. -/
  | value (anything : Bool) (set : σ → String → Except Refusal σ)

structure Switch (σ : Type) where
  long : String
  short : Option Char := none
  effect : Effect σ

structure Grammar (σ : Type) where
  switches : List (Switch σ)
  /-- Whether the draft has room for one more word. -/
  hasRoom : σ → Bool
  put : σ → String → σ
  /-- Why a word without room is refused; the flag says whether it came after `--`. -/
  stray : Bool → String → Refusal

/-- An option whose value is not in the draft yet. A value that stood alone is put there with the next option
or word, so a fault in between is reported first. -/
structure Owed (σ : Type) where
  anything : Bool
  set : σ → String → Except Refusal σ
  value : Option String := none

structure Scan (σ : Type) where
  draft : σ
  owed : Option (Owed σ) := none
  /-- All arguments after `--` are words. -/
  literal : Bool := false

namespace Scan

variable {σ : Type}

def settle (s : Scan σ) : Except Refusal (Scan σ) :=
  match s.owed with
  | none => .ok s
  | some o =>
    match o.value with
    | none => .error .badValue
    | some v => (o.set s.draft v).map fun draft => { s with draft, owed := none }

def change (s : Scan σ) (set : σ → Except Refusal σ) : Except Refusal (Scan σ) := do
  let s ← s.settle
  let draft ← set s.draft
  return { s with draft }

def awaited (s : Scan σ) : Option (Owed σ) := s.owed.filter (·.value.isNone)

def use (s : Scan σ) (effect : Effect σ) (value : Option String) : Except Refusal (Scan σ) :=
  match effect, value with
  | .flag set, none => s.change set
  | .flag _, some _ => .error .unwantedValue
  | .value _ set, some v => s.change (set · v)
  | .value anything set, none => s.settle.map fun s => { s with owed := some { anything, set } }

end Scan

def long? {σ : Type} (g : Grammar σ) (name : List Char) : Option (Switch σ) :=
  g.switches.find? (·.long.toList = name)

def short? {σ : Type} (g : Grammar σ) (name : Char) : Option (Switch σ) :=
  g.switches.find? (·.short = some name)

def afterEquals : List Char → Option String
  | [] => none
  | _ :: cs => some (String.ofList cs)

/-- Next to a short name the equals sign may be left out. -/
def besideShort : List Char → Option String
  | [] => none
  | '=' :: cs => some (String.ofList cs)
  | cs => some (String.ofList cs)

namespace Grammar

variable {σ : Type}

def takeLong (g : Grammar σ) (s : Scan σ) (cs : List Char) : Except Refusal (Scan σ) :=
  match long? g (cs.takeWhile (· ≠ '=')) with
  | none => .error .unknownArgument
  | some switch => s.use switch.effect (afterEquals (cs.dropWhile (· ≠ '=')))

/-- Several flags may share one hyphen, and the last of them may be an option with a value. -/
def takeShort (g : Grammar σ) (s : Scan σ) : List Char → Except Refusal (Scan σ)
  | [] => .ok s
  | c :: cs =>
    match short? g c with
    | none => .error .unknownArgument
    | some switch =>
      match switch.effect with
      | .flag set => (s.change set).bind (g.takeShort · cs)
      | effect => s.use effect (besideShort cs)

def takeWord (g : Grammar σ) (s : Scan σ) (word : String) : Except Refusal (Scan σ) :=
  if g.hasRoom s.draft then s.change fun draft => .ok (g.put draft word)
  else .error (g.stray s.literal word)

def takePlain (g : Grammar σ) (s : Scan σ) (argument : String) : Except Refusal (Scan σ) :=
  match s.awaited with
  | some o => .ok { s with owed := some { o with value := some argument } }
  | none => g.takeWord s argument

def take (g : Grammar σ) (s : Scan σ) (argument : String) : Except Refusal (Scan σ) :=
  if s.literal then g.takeWord s argument
  else if s.awaited.any (·.anything) then g.takePlain s argument
  else
    match argument.toList with
    | ['-', '-'] => .ok { s with literal := true }
    | '-' :: '-' :: cs => g.takeLong s cs
    | '-' :: c :: cs => g.takeShort s (c :: cs)
    | _ => g.takePlain s argument

def read (g : Grammar σ) (start : σ) (arguments : List String) : Except Refusal σ := do
  let s ← arguments.foldlM g.take { draft := start }
  let s ← s.settle
  return s.draft

end Grammar

end ManagedQueue.CommandLine
