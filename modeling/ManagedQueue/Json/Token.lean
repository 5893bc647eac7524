import ManagedQueue.Json.Basic
import ManagedQueue.Text.Bytes
import ManagedQueue.Text.Decimal

namespace ManagedQueue.Json

inductive Token where
  | openArr
  | closeArr
  | openObj
  | closeObj
  | comma
  | colon
  | atom (v : Json)
  | str (s : Option String)

/-- A string begun: its characters in reverse, a high surrogate that waits for its partner, and
whether a surrogate has been left alone. -/
structure Begun where
  chars : List Char := []
  high : Option Nat := none
  broken : Bool := false

inductive Mode where
  | between
  | word (seen : List Char)
  | string (t : Begun)
  | escape (t : Begun)
  | unit (t : Begun) (digits value : Nat)

structure Scan where
  mode : Mode := .between
  /-- The tokens so far, in reverse. -/
  tokens : List Token := []

def isSpace (c : Char) : Bool := c == ' ' || c == '\n' || c == '\t' || c == '\r'

def isWordChar (c : Char) : Bool := c.isAlphanum || c == '-' || c == '+' || c == '.'

def allDigits (cs : List Char) : Bool := !cs.isEmpty && cs.all Char.isDigit

def isExponent : List Char → Bool
  | e :: '+' :: cs => (e == 'e' || e == 'E') && allDigits cs
  | e :: '-' :: cs => (e == 'e' || e == 'E') && allDigits cs
  | e :: cs => (e == 'e' || e == 'E') && allDigits cs
  | [] => false

def isTail : List Char → Bool
  | '.' :: cs =>
    let rest := cs.dropWhile Char.isDigit
    !(cs.takeWhile Char.isDigit).isEmpty && (rest.isEmpty || isExponent rest)
  | cs => isExponent cs

def wholePart? (cs : List Char) : Option Nat :=
  if cs.head? == some '0' && cs.length != 1 then none else Text.natOf? cs

def number? (cs : List Char) : Option Json := do
  let negative := cs.head? == some '-'
  let body := if negative then cs.tail else cs
  let n ← wholePart? (body.takeWhile Char.isDigit)
  let rest := body.dropWhile Char.isDigit
  if rest.isEmpty then
    if !negative then return .int n
    -- A negative zero is no integer.
    if n == 0 then return .real cs
    return .int (-n)
  if isTail rest then return .real cs
  none

def word? (cs : List Char) : Option Json :=
  if cs = "null".toList then some .null
  else if cs = "true".toList then some (.bool true)
  else if cs = "false".toList then some (.bool false)
  else number? cs

namespace Begun

def settled (t : Begun) : Begun :=
  if t.high.isSome then { t with high := none, broken := true } else t

def push (t : Begun) (c : Char) : Begun :=
  { t.settled with chars := c :: t.chars }

def pushUnit (t : Begun) (n : Nat) : Begun :=
  if 0xDC00 ≤ n && n ≤ 0xDFFF then
    -- The second half of a pair, which needs its first half right before it.
    match t.high with
    | some h => { t with high := none
                         chars := Char.ofNat (0x10000 + (h - 0xD800) * 0x400 + (n - 0xDC00)) :: t.chars }
    | none => { t with broken := true }
  else if 0xD800 ≤ n && n ≤ 0xDBFF then { t.settled with high := some n }
  else t.push (Char.ofNat n)

def finish (t : Begun) : Option String :=
  if t.settled.broken then none else some (String.ofList t.chars.reverse)

end Begun

def escaped? (c : Char) : Option Char :=
  if c = '"' || c = '\\' || c = '/' then some c
  else if c = 'b' then some '\x08'
  else if c = 'f' then some '\x0c'
  else if c = 'n' then some '\n'
  else if c = 'r' then some '\r'
  else if c = 't' then some '\t'
  else none

namespace Scan

def emit (s : Scan) (t : Token) : Scan := { mode := .between, tokens := t :: s.tokens }

def between (s : Scan) (c : Char) : Option Scan :=
  if isSpace c then some { s with mode := .between }
  else if c = '[' then some (s.emit .openArr)
  else if c = ']' then some (s.emit .closeArr)
  else if c = '{' then some (s.emit .openObj)
  else if c = '}' then some (s.emit .closeObj)
  else if c = ',' then some (s.emit .comma)
  else if c = ':' then some (s.emit .colon)
  else if c = '"' then some { s with mode := .string {} }
  else if isWordChar c then some { s with mode := .word [c] }
  else none

def endWord (s : Scan) (seen : List Char) : Option Scan :=
  (word? seen.reverse).map fun v => s.emit (.atom v)

def step (s : Scan) (c : Char) : Option Scan :=
  match s.mode with
  | .between => s.between c
  | .word seen =>
    if isWordChar c then some { s with mode := .word (c :: seen) }
    else (s.endWord seen).bind (·.between c)
  | .string t =>
    if c = '"' then some (s.emit (.str t.finish))
    else if c = '\\' then some { s with mode := .escape t }
    else if c.toNat < 0x20 then none
    else some { s with mode := .string (t.push c) }
  | .escape t =>
    if c = 'u' then some { s with mode := .unit t 0 0 }
    else (escaped? c).map fun c => { s with mode := .string (t.push c) }
  | .unit t digits value =>
    (Text.hexDigit? c).map fun d =>
      let value := value * 16 + d
      if digits = 3 then { s with mode := .string (t.pushUnit value) }
      else { s with mode := .unit t (digits + 1) value }

def finish (s : Scan) : Option (List Token) :=
  match s.mode with
  | .between => some s.tokens.reverse
  | .word seen => (s.endWord seen).map (·.tokens.reverse)
  | _ => none

end Scan

def tokens? (cs : List Char) : Option (List Token) :=
  (cs.foldlM Scan.step {}).bind Scan.finish

end ManagedQueue.Json
