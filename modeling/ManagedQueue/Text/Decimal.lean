namespace ManagedQueue.Text

def natOf? (cs : List Char) : Option Nat :=
  if !cs.isEmpty && cs.all Char.isDigit then some (Nat.ofDigitChars 10 cs 0) else none

def intOf? : List Char → Option Int
  | '-' :: cs => (natOf? cs).map fun n => -(n : Int)
  | '+' :: cs => (natOf? cs).map fun n => (n : Int)
  | cs => (natOf? cs).map fun n => (n : Int)

def natChars (n : Nat) : List Char := Nat.toDigits 10 n

def intChars : Int → List Char
  | .ofNat n => natChars n
  | .negSucc n => '-' :: natChars (n + 1)

def showNat (n : Nat) : String := String.ofList (natChars n)

def showInt (n : Int) : String := String.ofList (intChars n)

def padded (width n : Nat) : List Char :=
  let cs := natChars n
  List.replicate (width - cs.length) '0' ++ cs

theorem natOf?_natChars (n : Nat) : natOf? (natChars n) = some n := by
  have hd : (natChars n).all Char.isDigit = true :=
    List.all_eq_true.mpr fun c hc => Nat.isDigit_of_mem_toDigits (by decide) (by decide) hc
  have hne : (natChars n).isEmpty = false := by
    rw [List.isEmpty_eq_false_iff]
    exact Nat.toDigits_ne_nil
  simp only [natOf?, hd, hne, Bool.not_false, Bool.and_self, if_true]
  rw [natChars, Nat.ofDigitChars_toDigits (by decide) (by decide)]

end ManagedQueue.Text
