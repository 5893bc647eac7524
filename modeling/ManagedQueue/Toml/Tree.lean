import ManagedQueue.Toml.Basic

namespace ManagedQueue.Toml

def replace (k : String) (v : Toml) : Members → Members
  | [] => []
  | m :: ms => if m.1 = k then (k, v) :: ms else m :: replace k v ms

namespace Members

def put (key : String) (v : Toml) : List String → Members → Option Members
  | [], ms => if (ms.lookup key).isSome then none else some (ms ++ [(key, v)])
  | k :: path, ms =>
    match ms.lookup k with
    | none => (put key v path []).map fun inner => ms ++ [(k, .table .dotted inner)]
    | some (.table .dotted inner) =>
      (put key v path inner).map fun inner => replace k (.table .dotted inner) ms
    | some _ => none

def changeLast (f : Members → Option Members) : List Toml → Option (List Toml)
  | [] => none
  | [.table origin ms] => (f ms).map fun ms => [.table origin ms]
  | [_] => none
  | item :: items => (changeLast f items).map (item :: ·)

/-- Changes the table at the end of a path of headers; tables that are missing are implied. -/
def within (f : Members → Option Members) : List String → Members → Option Members
  | [], ms => f ms
  | k :: path, ms =>
    match ms.lookup k with
    | none => (within f path []).map fun inner => ms ++ [(k, .table .implied inner)]
    | some (.table .braces _) => none
    | some (.table origin inner) =>
      (within f path inner).map fun inner => replace k (.table origin inner) ms
    | some (.array true items) =>
      (changeLast (within f path) items).map fun items => replace k (.array true items) ms
    | some _ => none

/-- A table by its header; one that was only implied so far is now defined. -/
def define (k : String) (ms : Members) : Option Members :=
  match ms.lookup k with
  | none => some (ms ++ [(k, .table .header [])])
  | some (.table .implied inner) => some (replace k (.table .header inner) ms)
  | some _ => none

def extend (k : String) (ms : Members) : Option Members :=
  match ms.lookup k with
  | none => some (ms ++ [(k, .array true [.table .header []])])
  | some (.array true items) =>
    some (replace k (.array true (items ++ [.table .header []])) ms)
  | some _ => none

end Members

end ManagedQueue.Toml
