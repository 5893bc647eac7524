import ManagedQueue.Text.Bytes
import ManagedQueue.Text.Decimal
import ManagedQueue.Toml.Basic

namespace ManagedQueue.Toml

def joined? (isDigit : Char → Bool) : List Char → Option (List Char)
  | [] => none
  | [c] => if isDigit c then some [c] else none
  | c :: '_' :: cs => if isDigit c then (joined? isDigit cs).map (c :: ·) else none
  | c :: cs => if isDigit c then (joined? isDigit cs).map (c :: ·) else none

def valueIn (base : Nat) (digits : List Char) : Nat :=
  digits.foldl (fun n c => n * base + (Text.hexDigit? c).getD 0) 0

def isDigitOf (base : Nat) (c : Char) : Bool := (Text.hexDigit? c).any (· < base)

def based? (base : Nat) (cs : List Char) : Option Int :=
  (joined? (isDigitOf base) cs).map fun digits => (valueIn base digits : Int)

def decimal? (cs : List Char) : Option (List Char) :=
  (joined? Char.isDigit cs).filter fun digits => digits.length = 1 || digits.head? ≠ some '0'

def unsigned : List Char → List Char
  | '+' :: cs => cs
  | '-' :: cs => cs
  | cs => cs

/-- A sign may stand before a decimal number only. -/
def integer? : List Char → Option Int
  | '0' :: 'x' :: cs => based? 16 cs
  | '0' :: 'o' :: cs => based? 8 cs
  | '0' :: 'b' :: cs => based? 2 cs
  | cs =>
    (decimal? (unsigned cs)).map fun digits =>
      if cs.head? = some '-' then -(valueIn 10 digits : Int) else valueIn 10 digits

def isExponent (cs : List Char) : Bool := (joined? Char.isDigit (unsigned cs)).isSome

def isE (c : Char) : Bool := c == 'e' || c == 'E'

def isReal (cs : List Char) : Bool :=
  let body := unsigned cs
  let whole := body.takeWhile fun c => c != '.' && !isE c
  let rest := body.dropWhile fun c => c != '.' && !isE c
  body = "inf".toList || body = "nan".toList ||
    ((decimal? whole).isSome &&
      match rest with
      | '.' :: tail =>
        let exponent := tail.dropWhile (!isE ·)
        (joined? Char.isDigit (tail.takeWhile (!isE ·))).isSome &&
          (exponent.isEmpty || isExponent exponent.tail)
      | _ :: tail => isExponent tail
      | [] => false)

/-- The shape with a digit for every `d` and all other characters as they are. -/
def hasShape (shape cs : List Char) : Bool :=
  shape.length == cs.length &&
    (shape.zip cs).all fun (s, c) => if s = 'd' then c.isDigit else s = c

def numberAt (start length : Nat) (cs : List Char) : Nat := valueIn 10 ((cs.drop start).take length)

def daysIn (year month : Nat) : Nat :=
  if month = 2 then
    if year % 4 = 0 && (year % 100 ≠ 0 || year % 400 = 0) then 29 else 28
  else if [4, 6, 9, 11].contains month then 30 else 31

def isDate (cs : List Char) : Bool :=
  let month := numberAt 5 2 cs
  let day := numberAt 8 2 cs
  hasShape "dddd-dd-dd".toList cs && 1 ≤ month && month ≤ 12 && 1 ≤ day &&
    day ≤ daysIn (numberAt 0 4 cs) month

def isClock (cs : List Char) : Bool :=
  hasShape "dd:dd".toList cs && numberAt 0 2 cs ≤ 23 && numberAt 3 2 cs ≤ 59

/-- Seconds may be left out; only they can have a fraction. -/
def isTime (cs : List Char) : Bool :=
  isClock (cs.take 5) &&
    match cs.drop 5 with
    | [] => true
    | ':' :: tail =>
      hasShape "dd".toList (tail.take 2) && numberAt 0 2 tail ≤ 60 &&
        match tail.drop 2 with
        | [] => true
        | '.' :: fraction => !fraction.isEmpty && fraction.all Char.isDigit
        | _ => false
    | _ => false

def isOffset : List Char → Bool
  | ['Z'] | ['z'] => true
  | '+' :: cs | '-' :: cs => isClock cs
  | _ => false

def isOffsetMark (c : Char) : Bool := c == 'Z' || c == 'z' || c == '+' || c == '-'

def isMoment (cs : List Char) : Bool :=
  isTime cs || isDate cs ||
    (isDate (cs.take 10) &&
      match cs.drop 10 with
      | mark :: tail =>
        let offset := tail.dropWhile (!isOffsetMark ·)
        [' ', 'T', 't'].contains mark && isTime (tail.takeWhile (!isOffsetMark ·)) &&
          (offset.isEmpty || isOffset offset)
      | [] => false)

def scalar? (cs : List Char) : Option Toml :=
  if cs = "true".toList then some (.boolean true)
  else if cs = "false".toList then some (.boolean false)
  else
    match integer? cs with
    | some n => some (.integer n)
    | none =>
      if isReal cs then some (.real cs) else if isMoment cs then some (.moment cs) else none

end ManagedQueue.Toml
