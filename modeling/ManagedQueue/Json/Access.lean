import ManagedQueue.Json.Basic
import ManagedQueue.Table

namespace ManagedQueue.Json

def ofMap {α : Type} (value : α → Json) (t : NameMap α) : Json :=
  .record (t.entries.map fun e => (e.1, value e.2))

def ofList {α : Type} (item : α → Json) (xs : List α) : Json := .arr (xs.map item)

def ofOption {α : Type} (value : α → Json) : Option α → Json
  | some a => value a
  | none => .null

def ofNat (n : Nat) : Json := .int n

def text? : Json → Option String
  | .str s => s
  | _ => none

def bool? : Json → Option Bool
  | .bool b => some b
  | _ => none

def intIn? (low high : Int) : Json → Option Int
  | .int n => if low ≤ n ∧ n ≤ high then some n else none
  | _ => none

def nat? (bound : Nat) (v : Json) : Option Nat := (v.intIn? 0 ((bound : Int) - 1)).map Int.toNat

def uint8? (v : Json) : Option UInt8 := (v.nat? UInt8.size).map UInt8.ofNat
def uint32? (v : Json) : Option UInt32 := (v.nat? UInt32.size).map UInt32.ofNat
def uint64? (v : Json) : Option UInt64 := (v.nat? UInt64.size).map UInt64.ofNat
def int64? (v : Json) : Option Int64 :=
  (v.intIn? Int64.minValue.toInt Int64.maxValue.toInt).map Int64.ofInt

def list? {α : Type} (item : Json → Option α) : Json → Option (List α)
  | .arr items => items.mapM item
  | _ => none

def member? {α : Type} (value : Json → Option α) (m : Option String × Json) :
    Option (String × α) :=
  m.1.bind fun k => (value m.2).map fun v => (k, v)

/-- Of several members with one key the last counts. -/
def map? {α : Type} (value : Json → Option α) : Json → Option (NameMap α)
  | .obj members => (members.mapM (member? value)).map Table.ofList
  | _ => none

/-- An optional field may also be present and null. -/
def option? {α : Type} (value : Json → Option α) : Json → Option (Option α)
  | .null => some none
  | v => (value v).map some

/-- What stands under the name: nothing, or one value; `none` if the name comes twice. -/
def memberOf (name : String) (members : List (String × Json)) : Option (Option Json) :=
  match members.filter fun m => m.1 = name with
  | [] => some none
  | [m] => some (some m.2)
  | _ => none

/-- The fields of a record, which may also stand as an array of them in order, the last ones left out. Unknown
members are passed over. -/
def fields? (names : List String) : Json → Option (List (Option Json))
  | .obj members =>
    (members.mapM (member? some)).bind fun keyed => names.mapM (memberOf · keyed)
  | .arr items =>
    if items.length ≤ names.length then
      some (items.map some ++ List.replicate (names.length - items.length) none)
    else none
  | _ => none

def required {α : Type} (value : Json → Option α) (field : Option Json) : Option α :=
  field.bind value

def defaulted {α : Type} (default : α) (value : Json → Option α) : Option Json → Option α
  | none => some default
  | some v => value v

end ManagedQueue.Json
