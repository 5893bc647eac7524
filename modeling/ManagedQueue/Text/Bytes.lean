namespace ManagedQueue.Text

abbrev Bytes := List UInt8

def toBytes (s : String) : Bytes := s.toUTF8.data.toList

def ofBytes? (bytes : Bytes) : Option String := String.fromUTF8? ⟨bytes.toArray⟩

/-- A character begun: how many bytes it still wants, where the next must lie, its bits so far. -/
structure Begun where
  wanted : Nat
  low : UInt8
  high : UInt8
  bits : Nat

/-- What the first byte of a character says; `none` in the first part is a malformed stretch. -/
def beginChar (b : UInt8) : List (Option Char) × Option Begun :=
  if b < 0x80 then ([some (Char.ofNat b.toNat)], none)
  else if 0xC2 ≤ b && b ≤ 0xDF then ([], some ⟨1, 0x80, 0xBF, b.toNat - 0xC0⟩)
  else if b == 0xE0 then ([], some ⟨2, 0xA0, 0xBF, 0⟩)
  else if b == 0xED then ([], some ⟨2, 0x80, 0x9F, 0xD⟩)
  else if 0xE1 ≤ b && b ≤ 0xEF then ([], some ⟨2, 0x80, 0xBF, b.toNat - 0xE0⟩)
  else if b == 0xF0 then ([], some ⟨3, 0x90, 0xBF, 0⟩)
  else if 0xF1 ≤ b && b ≤ 0xF3 then ([], some ⟨3, 0x80, 0xBF, b.toNat - 0xF0⟩)
  else if b == 0xF4 then ([], some ⟨3, 0x80, 0x8F, 4⟩)
  else ([none], none)

def readByte (begun : Option Begun) (b : UInt8) : List (Option Char) × Option Begun :=
  match begun with
  | none => beginChar b
  | some p =>
    if p.low ≤ b && b ≤ p.high then
      let bits := p.bits * 64 + (b.toNat - 0x80)
      if p.wanted ≤ 1 then ([some (Char.ofNat bits)], none)
      else ([], some ⟨p.wanted - 1, 0x80, 0xBF, bits⟩)
    else
      let (out, next) := beginChar b
      (none :: out, next)

def readBytes : Option Begun → Bytes → List (Option Char)
  | none, [] => []
  | some _, [] => [none]
  | begun, b :: rest =>
    let (out, next) := readByte begun b
    out ++ readBytes next rest

/-- Each longest stretch that could still have begun a character is shown as one replacement character. -/
def ofBytesLossy (bytes : Bytes) : String :=
  String.ofList ((readBytes none bytes).map (·.getD '\ufffd'))

def hexDigit? (c : Char) : Option Nat :=
  let n := c.toNat
  if '0' ≤ c && c ≤ '9' then some (n - '0'.toNat)
  else if 'a' ≤ c && c ≤ 'f' then some (n - 'a'.toNat + 10)
  else if 'A' ≤ c && c ≤ 'F' then some (n - 'A'.toNat + 10)
  else none

def hexByte (b : UInt8) : List Char :=
  [Nat.digitChar (b.toNat / 16), Nat.digitChar (b.toNat % 16)]

def hex (bytes : Bytes) : String := String.ofList (bytes.flatMap hexByte)

def ofHex? : List Char → Option Bytes
  | [] => some []
  | [_] => none
  | a :: b :: rest => do
    let hi ← hexDigit? a
    let lo ← hexDigit? b
    let bytes ← ofHex? rest
    return UInt8.ofNat (hi * 16 + lo) :: bytes

end ManagedQueue.Text
