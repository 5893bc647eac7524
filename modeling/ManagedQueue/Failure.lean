import ManagedQueue.Text.Quoted

namespace ManagedQueue

inductive FailureKind where
  | notFound
  | conflict
  | unavailable
  | closed
  | internal
deriving DecidableEq

def FailureKind.label : FailureKind → String
  | .notFound => "NotFound"
  | .conflict => "Conflict"
  | .unavailable => "Unavailable"
  | .closed => "Closed"
  | .internal => "Internal"

def FailureKind.phrase : FailureKind → String
  | .notFound => "not found"
  | .conflict => "conflict"
  | .unavailable => "unavailable"
  | .closed => "session closed"
  | .internal => "internal error"

structure CollaboratorError where
  kind : FailureKind
  detail : String
deriving DecidableEq

namespace CollaboratorError

def message (e : CollaboratorError) : String := s!"{e.kind.phrase}: {e.detail}"

def inspect (e : CollaboratorError) : String := s!"{e.kind.label}({Text.quoted e.detail})"

def missingTopic (name : String) : CollaboratorError := ⟨.notFound, s!"topic '{name}'"⟩

def missingQueue (name : String) : CollaboratorError := ⟨.notFound, s!"queue '{name}'"⟩

def missingGroup (group queue : String) : CollaboratorError :=
  ⟨.notFound, s!"group '{group}' on queue '{queue}'"⟩

end CollaboratorError

inductive ServiceError where
  | invalidArgument (message : String)
  | alreadyExists (operation queue : String)
  | notFound (operation queue : String) (group : Option String)
  | notImplemented (operation : String)
  /-- A collaborator failed while the operation ran. -/
  | collaborator (operation queue : String) (group : Option String) (source : CollaboratorError)
deriving DecidableEq

def describeTarget (queue : String) : Option String → String
  | some group => s!"group '{group}' @ queue '{queue}'"
  | none => s!"queue '{queue}'"

namespace ServiceError

def label : ServiceError → String
  | .invalidArgument _ => "InvalidArgument"
  | .alreadyExists _ _ => "AlreadyExists"
  | .notFound _ _ _ => "NotFound"
  | .notImplemented _ => "NotImplemented"
  | .collaborator _ _ _ _ => "Upstream"

def message : ServiceError → String
  | .invalidArgument text => s!"Invalid argument: {text}"
  | .alreadyExists operation queue => s!"{operation}: queue '{queue}' already exists"
  | .notFound operation queue group => s!"{operation}: {describeTarget queue group} not found"
  | .notImplemented operation => s!"{operation} is not implemented"
  | .collaborator operation queue group source =>
    s!"{operation} failed for {describeTarget queue group}: {source.message}"

def isActionable : ServiceError → Bool
  | .collaborator _ _ _ _ => false
  | _ => true

def userMessage (e : ServiceError) : Option String :=
  if e.isActionable then some e.message else none

def isNotFound : ServiceError → Bool
  | .notFound _ _ _ => true
  | _ => false

def isAlreadyExists : ServiceError → Bool
  | .alreadyExists _ _ => true
  | _ => false

def inspectGroup : Option String → String
  | some group => s!"Some({Text.quoted group})"
  | none => "None"

def inspect : ServiceError → String
  | .invalidArgument text => "InvalidArgument \x7b message: " ++ Text.quoted text ++ " \x7d"
  | .alreadyExists operation queue =>
    "AlreadyExists \x7b operation: " ++ Text.quoted operation ++ ", queue: " ++
      Text.quoted queue ++ " \x7d"
  | .notFound operation queue group =>
    "NotFound \x7b operation: " ++ Text.quoted operation ++ ", queue: " ++ Text.quoted queue ++
      ", group: " ++ inspectGroup group ++ " \x7d"
  | .notImplemented operation =>
    "NotImplemented \x7b operation: " ++ Text.quoted operation ++ " \x7d"
  | .collaborator operation queue group source =>
    "Upstream \x7b operation: " ++ Text.quoted operation ++ ", queue: " ++ Text.quoted queue ++
      ", group: " ++ inspectGroup group ++ ", source: " ++ source.inspect ++ " \x7d"

end ServiceError

end ManagedQueue
