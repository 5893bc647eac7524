import ManagedQueue.Failure
import ManagedQueue.Journal
import ManagedQueue.Text.Decimal

namespace ManagedQueue

inductive ProgramError where
  | missingConfiguration (path : String)
  | unreadableConfiguration (path cause : String)
  | malformedConfiguration (path : String)
  | invalidConfiguration (fault : String)
  | service (e : ServiceError)
  | state (e : CollaboratorError)
  | receiveTimeout (queue group : String) (seconds : UInt64)
  | logging (text : String)
deriving DecidableEq

namespace ProgramError

def message : ProgramError → String
  | .missingConfiguration path => s!"The specified configuration file does not exist: {path}"
  | .unreadableConfiguration path cause => s!"Error reading configuration file {path}: {cause}"
  | .malformedConfiguration path => s!"Error parsing configuration file {path}"
  | .invalidConfiguration fault => s!"Invalid configuration: {fault}"
  | .service e => e.message
  | .state e => s!"state file: {e.message}"
  | .receiveTimeout queue group seconds =>
    s!"no message for {queue}@{group} within {Text.showNat seconds.toNat}s"
  | .logging text => s!"logging setup failed: {text}"

def isActionable : ProgramError → Bool
  | .service e => e.isActionable
  | .state _ => false
  | .logging _ => false
  | _ => true

def userMessage (e : ProgramError) : Option String :=
  if e.isActionable then some e.message else none

def record (name : String) (fields : List (String × String)) : String :=
  name ++ " \x7b " ++ String.intercalate ", " (fields.map fun f => f.1 ++ ": " ++ f.2) ++ " \x7d"

def wrapped (name inner : String) : String := s!"{name}({inner})"

def inspect : ProgramError → String
  | .missingConfiguration path =>
    wrapped "Config" (record "Missing" [("path", Text.quotedPath path)])
  | .unreadableConfiguration path cause =>
    wrapped "Config"
      (record "Read" [("path", Text.quotedPath path), ("source", Text.quoted cause)])
  | .malformedConfiguration path =>
    wrapped "Config" (record "Parse" [("path", Text.quotedPath path)])
  | .invalidConfiguration fault => wrapped "Config" (wrapped "Invalid" (Text.quoted fault))
  | .service e => wrapped "Service" e.inspect
  | .state e => wrapped "State" e.inspect
  | .receiveTimeout queue group seconds =>
    record "ReceiveTimeout"
      [("queue", Text.quoted queue), ("group", Text.quoted group),
        ("seconds", Text.showNat seconds.toNat)]
  | .logging text => wrapped "Logging" (Text.quoted text)

def headline (operation : String) (e : ProgramError) : String :=
  match e.userMessage with
  | some text => s!"{operation}: {text}"
  | none => s!"{operation} failed"

def report (operation : String) (e : ProgramError) : Journal :=
  [⟨.error, .errorReport, e.headline operation⟩,
   ⟨.debug, .errorReport, s!"DETAIL: {e.message}"⟩,
   ⟨.debug, .errorReport, s!"DEBUG_DETAILS: {e.inspect}"⟩]

end ProgramError

end ManagedQueue
