namespace ManagedQueue.Text

inductive Style where
  | heading
  | label
  | faint
  | alarm
  | caution
  | notice
  | detail
deriving DecidableEq

def Style.opening : Style → List Char
  | .heading => "\x1b[1m".toList
  | .label => "\x1b[36m".toList
  | .faint => "\x1b[2m".toList
  | .alarm => "\x1b[1;31m".toList
  | .caution => "\x1b[33m".toList
  | .notice => "\x1b[32m".toList
  | .detail => "\x1b[34m".toList

def closing : List Char := "\x1b[0m".toList

def reopened (opening : List Char) : List Char → List Char
  -- A styled text inside has ended the style, so it is opened again.
  | '\x1b' :: '[' :: '0' :: 'm' :: rest => closing ++ opening ++ reopened opening rest
  | c :: rest => c :: reopened opening rest
  | [] => []

def Style.apply (style : Style) (s : String) : String :=
  String.ofList (style.opening ++ reopened style.opening s.toList ++ closing)

def styled (color : Bool) (style : Style) (s : String) : String :=
  if color then style.apply s else s

end ManagedQueue.Text
