import ManagedQueue.Json.Basic
import ManagedQueue.Text.Decimal

namespace ManagedQueue.Json

def hexUnit (n : Nat) : List Char :=
  [Nat.digitChar (n / 0x1000 % 16), Nat.digitChar (n / 0x100 % 16), Nat.digitChar (n / 16 % 16),
    Nat.digitChar (n % 16)]

/-- Only what JSON forbids inside a string is escaped. -/
def escapedChar (c : Char) : List Char :=
  if c = '"' then ['\\', '"']
  else if c = '\\' then ['\\', '\\']
  else if c = '\x08' then ['\\', 'b']
  else if c = '\x0c' then ['\\', 'f']
  else if c = '\n' then ['\\', 'n']
  else if c = '\r' then ['\\', 'r']
  else if c = '\t' then ['\\', 't']
  else if c.toNat < 0x20 then '\\' :: 'u' :: hexUnit c.toNat
  else [c]

def stringChars : Option String → List Char
  | some s => '"' :: s.toList.flatMap escapedChar ++ ['"']
  | none => "\"\\ud800\"".toList

def lineBreak (depth : Nat) : List Char := '\n' :: List.replicate (2 * depth) ' '

mutual

def prettyChars (depth : Nat) : Json → List Char
  | .null => "null".toList
  | .bool b => (if b then "true" else "false").toList
  | .int n => Text.intChars n
  | .real written => written
  | .str s => stringChars s
  | .arr [] => "[]".toList
  | .arr (v :: vs) =>
    '[' :: lineBreak (depth + 1) ++ prettyChars (depth + 1) v ++ prettyItems (depth + 1) vs ++
      lineBreak depth ++ [']']
  | .obj [] => ['{', '}']
  | .obj ((k, v) :: ms) =>
    '{' :: lineBreak (depth + 1) ++ stringChars k ++ ':' :: ' ' :: prettyChars (depth + 1) v ++
      prettyMembers (depth + 1) ms ++ lineBreak depth ++ ['}']

def prettyItems (depth : Nat) : List Json → List Char
  | [] => []
  | v :: vs => ',' :: lineBreak depth ++ prettyChars depth v ++ prettyItems depth vs

def prettyMembers (depth : Nat) : List (Option String × Json) → List Char
  | [] => []
  | (k, v) :: ms =>
    ',' :: lineBreak depth ++ stringChars k ++ ':' :: ' ' :: prettyChars depth v ++
      prettyMembers depth ms

end

def pretty (v : Json) : String := String.ofList (prettyChars 0 v)

mutual

def compactChars : Json → List Char
  | .null => "null".toList
  | .bool b => (if b then "true" else "false").toList
  | .int n => Text.intChars n
  | .real written => written
  | .str s => stringChars s
  | .arr [] => "[]".toList
  | .arr (v :: vs) => '[' :: compactChars v ++ compactItems vs ++ [']']
  | .obj [] => ['{', '}']
  | .obj ((k, v) :: ms) =>
    '{' :: stringChars k ++ ':' :: compactChars v ++ compactMembers ms ++ ['}']

def compactItems : List Json → List Char
  | [] => []
  | v :: vs => ',' :: compactChars v ++ compactItems vs

def compactMembers : List (Option String × Json) → List Char
  | [] => []
  | (k, v) :: ms => ',' :: stringChars k ++ ':' :: compactChars v ++ compactMembers ms

end

def compact (v : Json) : String := String.ofList (compactChars v)

end ManagedQueue.Json
