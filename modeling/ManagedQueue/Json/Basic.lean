namespace ManagedQueue

inductive Json where
  | null
  | bool (b : Bool)
  | int (n : Int)
  /-- Written with a fraction, an exponent or a negative zero. -/
  | real (written : List Char)
  | str (s : Option String)
  | arr (items : List Json)
  | obj (members : List (Option String × Json))

namespace Json

def text (s : String) : Json := .str (some s)

def record (fields : List (String × Json)) : Json :=
  .obj (fields.map fun f => (some f.1, f.2))

def texts (ss : List String) : Json := .arr (ss.map text)

end Json

end ManagedQueue
