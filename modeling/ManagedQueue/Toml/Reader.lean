import ManagedQueue.Toml.Token
import ManagedQueue.Toml.Tree

namespace ManagedQueue.Toml

/-- A piece of a key: a name, or the dot between two names. -/
inductive Piece where
  | name (s : String)
  | dot

def isNameChar (c : Char) : Bool := c.isAlphanum || c == '-' || c == '_'

def wordPieces : List Char → List Char → Option (List Piece)
  | seen, [] => some (if seen.isEmpty then [] else [.name (String.ofList seen.reverse)])
  | seen, '.' :: cs =>
    (wordPieces [] cs).map fun rest =>
      (if seen.isEmpty then [] else [Piece.name (String.ofList seen.reverse)]) ++ .dot :: rest
  | seen, c :: cs => if isNameChar c then wordPieces (c :: seen) cs else none

def piecesOf : Token → Option (List Piece)
  | .word cs => wordPieces [] cs
  | .string s false => some [.name s]
  | _ => none

def names? : List Piece → Option (List String)
  | [.name s] => some [s]
  | .name s :: .dot :: rest => (names? rest).map (s :: ·)
  | _ => none

def key? (ts : List Token) : Option (List String × String) := do
  let names ← names? (← ts.mapM piecesOf).flatten
  return (names.dropLast, ← names.getLast?)

def isMarkOf (c : Char) (t : Token) : Bool := t == .mark c

def splitAt? (c : Char) (ts : List Token) : Option (List Token × List Token) :=
  match ts.dropWhile (!isMarkOf c ·) with
  | [] => none
  | _ :: rest => some (ts.takeWhile (!isMarkOf c ·), rest)

def skipLines (ts : List Token) : List Token := ts.dropWhile (· == .newline)

mutual

/-- A value and the tokens after it. The number bounds the depth and the length of what is read;
the count of tokens is always enough. -/
def value? : Nat → List Token → Option (Toml × List Token)
  | 0, _ => none
  | fuel + 1, ts =>
    match ts with
    | .word cs :: rest => (scalar? cs).map (·, rest)
    | .string s _ :: rest => some (.string s, rest)
    | .mark '[' :: rest => items? fuel [] (skipLines rest)
    | .mark '{' :: rest => members? fuel [] (skipLines rest)
    | _ => none

def items? : Nat → List Toml → List Token → Option (Toml × List Token)
  | 0, _, _ => none
  | fuel + 1, seen, ts =>
    match ts with
    | .mark ']' :: rest => some (.array false seen.reverse, rest)
    | _ => do
      let (v, rest) ← value? fuel ts
      match skipLines rest with
      | .mark ',' :: rest => items? fuel (v :: seen) (skipLines rest)
      | .mark ']' :: rest => some (.array false (v :: seen).reverse, rest)
      | _ => none

def members? : Nat → Members → List Token → Option (Toml × List Token)
  | 0, _, _ => none
  | fuel + 1, seen, ts =>
    match ts with
    | .mark '}' :: rest => some (.table .braces seen, rest)
    | _ => do
      let (before, rest) ← splitAt? '=' ts
      let (path, key) ← key? before
      let (v, rest) ← value? fuel rest
      let seen ← Members.put key v path seen
      match skipLines rest with
      | .mark ',' :: rest => members? fuel seen (skipLines rest)
      | .mark '}' :: rest => some (.table .braces seen, rest)
      | _ => none

end

structure Document where
  members : Members := []
  path : List String := []

namespace Document

def header? (d : Document) (ts : List Token) (enter : String → Members → Option Members) :
    Option Document := do
  let (path, key) ← key? ts
  let members ← Members.within (enter key) path d.members
  return { members, path := path ++ [key] }

def assign? (d : Document) (ts : List Token) (v : Toml) : Option Document := do
  let (path, key) ← key? ts
  let members ← Members.within (Members.put key v path) d.path d.members
  return { d with members }

end Document

def endLine : List Token → Option (List Token)
  | [] => some []
  | .newline :: rest => some rest
  | _ => none

def statement? (d : Document) (ts : List Token) : Option (Document × List Token) :=
  match ts with
  | .mark '[' :: .mark '[' :: rest => do
    let (before, rest) ← splitAt? ']' rest
    match rest with
    | .mark ']' :: rest => return (← d.header? before Members.extend, ← endLine rest)
    | _ => none
  | .mark '[' :: rest => do
    let (before, rest) ← splitAt? ']' rest
    return (← d.header? before Members.define, ← endLine rest)
  | _ => do
    let (before, rest) ← splitAt? '=' ts
    -- As many tokens as are left bound the value.
    let (v, rest) ← value? (rest.length + 1) rest
    return (← d.assign? before v, ← endLine rest)

def statements? : Nat → Document → List Token → Option Document
  | 0, _, _ => none
  | fuel + 1, d, ts =>
    match skipLines ts with
    | [] => some d
    | ts => do
      let (d, rest) ← statement? d ts
      statements? fuel d rest

def parse? (text : String) : Option Members := do
  let ts ← tokens? text
  let d ← statements? (ts.length + 1) {} ts
  return d.members

end ManagedQueue.Toml
