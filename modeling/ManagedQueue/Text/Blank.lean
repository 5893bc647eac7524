namespace ManagedQueue.Text

/-- White space as Unicode's `White_Space` property has it. -/
def isBlank (c : Char) : Bool :=
  let n := c.toNat
  (9 ≤ n && n ≤ 13) || n == 0x20 || n == 0x85 || n == 0xA0 || n == 0x1680 ||
    (0x2000 ≤ n && n ≤ 0x200A) || n == 0x2028 || n == 0x2029 || n == 0x202F || n == 0x205F ||
    n == 0x3000

def isTrimmed (s : String) : Bool :=
  !(s.toList.head?.any isBlank) && !(s.toList.getLast?.any isBlank)

def trim (s : String) : String :=
  String.ofList ((s.toList.dropWhile isBlank).reverse.dropWhile isBlank).reverse

end ManagedQueue.Text
