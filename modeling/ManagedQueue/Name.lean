import ManagedQueue.Text.Blank

namespace ManagedQueue

inductive NameFault where
  | empty
  | untrimmed
  | reserved
deriving DecidableEq

def nameFault? (value : String) : Option NameFault :=
  if value.isEmpty then some .empty
  else if !Text.isTrimmed value then some .untrimmed
  else if value.toList.contains '@' then some .reserved
  else none

/-- What a name is for: `Queue` or `Group`. -/
def NameFault.message (kind value : String) : NameFault → String
  | .empty => s!"{kind} name must not be empty"
  | .untrimmed => s!"{kind} name '{value}' must not start or end with whitespace"
  | .reserved => s!"{kind} name '{value}' must not contain '@'"

def sessionKey (queue group : String) : String := queue ++ "@" ++ group

end ManagedQueue
