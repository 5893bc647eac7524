import ManagedQueue.Text.Bytes
import ManagedQueue.Toml.Scalar

namespace ManagedQueue.Toml

inductive Token where
  | word (cs : List Char)
  | string (s : String) (multiline : Bool)
  | mark (c : Char)
  | newline
deriving DecidableEq

structure Quoting where
  quote : Char
  multiline : Bool := false
  /-- The characters so far, in reverse. -/
  chars : List Char := []

inductive Mode where
  | between
  | word (seen : List Char)
  /-- After a full date, a blank may stand before the time of day. -/
  | date (seen : List Char)
  | comment
  | returned
  /-- Quotes at the beginning of a string: one more than `seen`. -/
  | opening (quote : Char) (seen : Nat)
  | string (q : Quoting)
  /-- A run of quotes inside a string of many lines. -/
  | quotes (q : Quoting) (seen : Nat)
  /-- A carriage return, which must end a line; the flag says whether the line is the first. -/
  | stringReturn (q : Quoting) (first : Bool)
  | escape (q : Quoting)
  | unit (q : Quoting) (left value : Nat)
  /-- A backslash at the end of a line takes away the blanks up to the next character. -/
  | folding (q : Quoting) (ended : Bool)

structure Scan where
  mode : Mode := .between
  /-- The tokens so far, in reverse. -/
  tokens : List Token := []

def isWordChar (c : Char) : Bool :=
  c.isAlphanum || c == '-' || c == '_' || c == '+' || c == '.' || c == ':'

def isForbidden (c : Char) : Bool := (c.toNat < 0x20 && c != '\t') || c.toNat == 0x7F

def isMark (c : Char) : Bool := "[]{}=,".toList.contains c

def escaped? (c : Char) : Option Char :=
  [('b', '\x08'), ('t', '\t'), ('n', '\n'), ('f', '\x0c'), ('r', '\r'), ('e', '\x1b'),
    ('"', '"'), ('\\', '\\')].lookup c

def unitLength? (c : Char) : Option Nat := [('x', 2), ('u', 4), ('U', 8)].lookup c

def char? (n : Nat) : Option Char := if n.isValidChar then some (Char.ofNat n) else none

namespace Quoting

def push (q : Quoting) (c : Char) : Quoting := { q with chars := c :: q.chars }

def pushQuotes (q : Quoting) (n : Nat) : Quoting :=
  { q with chars := List.replicate n q.quote ++ q.chars }

def token (q : Quoting) : Token := .string (String.ofList q.chars.reverse) q.multiline

end Quoting

namespace Scan

def go (s : Scan) (mode : Mode) : Option Scan := some { s with mode }

def emit (s : Scan) (t : Token) : Scan := { mode := .between, tokens := t :: s.tokens }

def between (s : Scan) (c : Char) : Option Scan :=
  if c = ' ' || c = '\t' then s.go .between
  else if c = '\n' then some (s.emit .newline)
  else if c = '\r' then s.go .returned
  else if c = '#' then s.go .comment
  else if c = '"' || c = '\'' then s.go (.opening c 0)
  else if isMark c then some (s.emit (.mark c))
  else if isWordChar c then s.go (.word [c])
  else none

def endWord (s : Scan) (seen : List Char) : Scan := s.emit (.word seen.reverse)

/-- The next character of a string, which is no quote that could end it. -/
def inString (s : Scan) (q : Quoting) (c : Char) : Option Scan :=
  if c = '\\' && q.quote = '"' then s.go (.escape q)
  else if q.multiline && c = '\n' then s.go (.string (q.push c))
  else if q.multiline && c = '\r' then s.go (.stringReturn q false)
  else if isForbidden c then none
  else s.go (.string (q.push c))

def string (s : Scan) (q : Quoting) (c : Char) : Option Scan :=
  if c ≠ q.quote then s.inString q c
  else if q.multiline then s.go (.quotes q 1)
  else some (s.emit q.token)

/-- Up to two quotes right before the three that end a string belong to it. -/
def endQuotes (s : Scan) (q : Quoting) (n : Nat) : Option Scan :=
  if 3 ≤ n && n ≤ 5 then some (s.emit (q.pushQuotes (n - 3)).token) else none

def afterQuotes (s : Scan) (q : Quoting) (n : Nat) (c : Char) : Option Scan :=
  if c = q.quote then s.go (.quotes q (n + 1))
  else if n < 3 then s.inString (q.pushQuotes n) c
  else (s.endQuotes q n).bind (·.between c)

/-- One quote begins a string on one line, two are an empty string, three begin a string that may
have many lines; the end of the line right after them does not count. -/
def opening (s : Scan) (quote : Char) (seen : Nat) (c : Char) : Option Scan :=
  match seen with
  | 0 =>
    if c = quote then s.go (.opening quote 1) else s.inString { quote } c
  | 1 =>
    if c = quote then s.go (.opening quote 2) else (s.emit (.string "" false)).between c
  | _ =>
    let q : Quoting := { quote, multiline := true }
    if c = '\n' then s.go (.string q)
    else if c = '\r' then s.go (.stringReturn q true)
    else s.string q c

def escape (s : Scan) (q : Quoting) (c : Char) : Option Scan :=
  match escaped? c, unitLength? c with
  | some e, _ => s.go (.string (q.push e))
  | none, some n => s.go (.unit q n 0)
  | none, none =>
    if !q.multiline then none
    else if c = '\n' then s.go (.folding q true)
    else if c = ' ' || c = '\t' || c = '\r' then s.go (.folding q false)
    else none

def unit (s : Scan) (q : Quoting) (left value : Nat) (c : Char) : Option Scan :=
  (Text.hexDigit? c).bind fun d =>
    if 1 < left then s.go (.unit q (left - 1) (value * 16 + d))
    else (char? (value * 16 + d)).bind fun e => s.go (.string (q.push e))

def folding (s : Scan) (q : Quoting) (ended : Bool) (c : Char) : Option Scan :=
  if c = '\n' then s.go (.folding q true)
  else if c = ' ' || c = '\t' || c = '\r' then s.go (.folding q ended)
  else if ended then s.string q c
  else none

def step (s : Scan) (c : Char) : Option Scan :=
  match s.mode with
  | .between => s.between c
  | .word seen =>
    if isWordChar c then s.go (.word (c :: seen))
    else if c = ' ' && isDate seen.reverse then s.go (.date seen)
    else (s.endWord seen).between c
  | .date seen =>
    if c.isDigit then s.go (.word (c :: ' ' :: seen)) else (s.endWord seen).between c
  | .comment =>
    if c = '\n' || c = '\r' then s.between c else if isForbidden c then none else some s
  | .returned => if c = '\n' then some (s.emit .newline) else none
  | .opening quote seen => s.opening quote seen c
  | .string q => s.string q c
  | .quotes q n => s.afterQuotes q n c
  | .stringReturn q first =>
    if c ≠ '\n' then none
    else s.go (.string (if first then q else (q.push '\r').push '\n'))
  | .escape q => s.escape q c
  | .unit q left value => s.unit q left value c
  | .folding q ended => s.folding q ended c

def finish (s : Scan) : Option (List Token) :=
  match s.mode with
  | .between | .comment => some s.tokens.reverse
  | .word seen | .date seen => some (s.endWord seen).tokens.reverse
  | .opening _ 1 => some (s.emit (.string "" false)).tokens.reverse
  | .quotes q n => (s.endQuotes q n).map (·.tokens.reverse)
  | _ => none

end Scan

def withoutMark : List Char → List Char
  | '\ufeff' :: cs => cs
  | cs => cs

def tokens? (text : String) : Option (List Token) :=
  ((withoutMark text.toList).foldlM Scan.step {}).bind Scan.finish

end ManagedQueue.Toml
