import ManagedQueue.Json.Token

namespace ManagedQueue.Json

inductive Frame where
  | arr (items : List Json)
  | obj (members : List (Option String × Json))
  | field (members : List (Option String × Json)) (key : Option String)

inductive Want where
  | value
  | itemOrClose
  | key
  | keyOrClose
  | colon
  | commaOrClose
  | nothing (v : Json)

structure Assembly where
  stack : List Frame := []
  want : Want := .value

namespace Assembly

def accept (stack : List Frame) (v : Json) : Option Assembly :=
  match stack with
  | [] => some ⟨[], .nothing v⟩
  | .arr items :: rest => some ⟨.arr (v :: items) :: rest, .commaOrClose⟩
  | .field members key :: rest => some ⟨.obj ((key, v) :: members) :: rest, .commaOrClose⟩
  | .obj _ :: _ => none

def begin? (a : Assembly) : Token → Option Assembly
  | .atom v => accept a.stack v
  | .str s => accept a.stack (.str s)
  | .openArr => some ⟨.arr [] :: a.stack, .itemOrClose⟩
  | .openObj => some ⟨.obj [] :: a.stack, .keyOrClose⟩
  | _ => none

def close? (a : Assembly) : Token → Option Assembly
  | .closeArr =>
    match a.stack with
    | .arr items :: rest => accept rest (.arr items.reverse)
    | _ => none
  | .closeObj =>
    match a.stack with
    | .obj members :: rest => accept rest (.obj members.reverse)
    | _ => none
  | _ => none

def key? (a : Assembly) : Token → Option Assembly
  | .str s =>
    match a.stack with
    | .obj members :: rest => some ⟨.field members s :: rest, .colon⟩
    | _ => none
  | _ => none

def comma? (a : Assembly) : Option Assembly :=
  match a.stack with
  | .arr _ :: _ => some { a with want := .value }
  | .obj _ :: _ => some { a with want := .key }
  | _ => none

def step (a : Assembly) (t : Token) : Option Assembly :=
  match a.want, t with
  | .value, t => a.begin? t
  -- An empty list or record is closed at once, but nothing is closed right after a comma.
  | .itemOrClose, .closeArr => a.close? .closeArr
  | .itemOrClose, t => a.begin? t
  | .key, t => a.key? t
  | .keyOrClose, .closeObj => a.close? .closeObj
  | .keyOrClose, t => a.key? t
  | .colon, .colon => some { a with want := .value }
  | .colon, _ => none
  | .commaOrClose, .comma => a.comma?
  | .commaOrClose, t => a.close? t
  | .nothing _, _ => none

def finish : Assembly → Option Json
  | ⟨[], .nothing v⟩ => some v
  | _ => none

end Assembly

def ofTokens? (ts : List Token) : Option Json :=
  (ts.foldlM Assembly.step {}).bind Assembly.finish

def parse? (s : String) : Option Json := (tokens? s.toList).bind ofTokens?

end ManagedQueue.Json
