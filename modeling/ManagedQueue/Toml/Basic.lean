namespace ManagedQueue

namespace Toml

/-- How a table came about; this decides what may still be added to it. -/
inductive Origin where
  /-- Named by a header of its own. -/
  | header
  /-- Only on the way to a table that a header names. -/
  | implied
  /-- Made by the dots in a key. -/
  | dotted
  /-- Written between braces. -/
  | braces
deriving DecidableEq

end Toml

inductive Toml where
  | string (s : String)
  | integer (n : Int)
  | boolean (b : Bool)
  | real (written : List Char)
  | moment (written : List Char)
  /-- An array that headers in double brackets make can still grow. -/
  | array (grows : Bool) (items : List Toml)
  | table (origin : Toml.Origin) (members : List (String × Toml))

namespace Toml

abbrev Members := List (String × Toml)

end Toml

end ManagedQueue
