import ManagedQueue.Text.Concealed

namespace ManagedQueue.Text

def hexDigits (n : Nat) : String := String.ofList (Nat.toDigits 16 n)

def quotedChar (c : Char) : String :=
  if c = '"' then "\\\""
  else if c = '\\' then "\\\\"
  else if c = '\n' then "\\n"
  else if c = '\r' then "\\r"
  else if c = '\t' then "\\t"
  else if c = '\x00' then "\\0"
  else if isConcealed c then "\\u\x7b" ++ hexDigits c.toNat ++ "\x7d"
  else c.toString

def quoted (s : String) : String :=
  "\"" ++ String.join (s.toList.map quotedChar) ++ "\""

/-- In a path the apostrophe is told apart too. -/
def quotedPathChar (c : Char) : String := if c = '\'' then "\\'" else quotedChar c

def quotedPath (s : String) : String :=
  "\"" ++ String.join (s.toList.map quotedPathChar) ++ "\""

end ManagedQueue.Text
