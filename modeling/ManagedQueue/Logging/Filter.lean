import ManagedQueue.Logging.Level
import ManagedQueue.Text.Blank

namespace ManagedQueue.Logging

structure Rule where
  area : Option String
  threshold : Threshold
deriving DecidableEq

structure Filter where
  /-- The first rule whose area fits decides. -/
  rules : List Rule
  needle : List Char := []
deriving DecidableEq

def pieces (separator : Char) : List Char → List (List Char)
  | [] => [[]]
  | c :: cs =>
    if c = separator then [] :: pieces separator cs
    else
      match pieces separator cs with
      | [] => [[c]]
      | p :: ps => (c :: p) :: ps

def trimmed (cs : List Char) : List Char :=
  ((cs.dropWhile Text.isBlank).reverse.dropWhile Text.isBlank).reverse

def threshold? (cs : List Char) : Option Threshold :=
  Threshold.ofName? (String.ofList (cs.map Char.toLower))

/-- A rule, or why there is none. A word that names no level is an area without a threshold. -/
def rule (written : List Char) : Except String Rule :=
  let unfit (cs : List Char) : Bool := cs.any Text.isBlank
  let refusal (cs : List Char) : String :=
    "ignoring invalid part in log spec '" ++ String.ofList cs ++ "' (contains a whitespace)"
  match (pieces '=' written).map trimmed with
  | [word] =>
    if unfit word then .error (refusal word)
    else
      match threshold? word with
      | some t => .ok ⟨none, t⟩
      | none => .ok ⟨some (String.ofList word), .trace⟩
  | [area, level] =>
    if unfit area then .error (refusal area)
    else if level.isEmpty then .ok ⟨some (String.ofList area), .trace⟩
    else
      match threshold? level with
      | some t => .ok ⟨some (String.ofList area), t⟩
      | none => .error "Invalid level filter"
  | _ => .error ("invalid part in log spec '" ++ String.ofList written ++ "', ignoring it")

def occurs (needle : List Char) : List Char → Bool
  | [] => needle.isEmpty
  | c :: cs => needle.isPrefixOf (c :: cs) || occurs needle cs

def areaLength (r : Rule) : Nat := (r.area.map String.utf8ByteSize).getD 0

def refusals (rules : List (Except String Rule)) : List String :=
  rules.filterMap fun
    | .error text => some text
    | .ok _ => none

def accepted (rules : List (Except String Rule)) : List Rule :=
  rules.filterMap fun
    | .error _ => none
    | .ok r => some r

namespace Filter

def ofRules (written : List Char) (needle : List Char) : Except String Filter :=
  let rules := (((pieces ',' written).map trimmed).filter (!·.isEmpty)).map rule
  match refusals rules with
  -- The longest area that fits decides, so those stand first.
  | [] => .ok { rules := (accepted rules).mergeSort fun a b => areaLength b ≤ areaLength a, needle }
  | texts => .error (String.intercalate "; " texts)

def parse (spec : String) : Except String Filter :=
  match pieces '/' spec.toList with
  | [written] => ofRules written []
  | [written, needle] => ofRules written needle
  | _ => .error ("invalid log spec '" ++ spec ++ "' (too many '/'s), ignoring it")

def fits (area : String) (r : Rule) : Bool :=
  r.area.all fun start => start.toList.isPrefixOf area.toList

def admits (f : Filter) (area : String) (level : Level) (message : String) : Bool :=
  (f.rules.find? (fits area)).any (·.threshold.admits level) &&
    occurs f.needle message.toList

end Filter

end ManagedQueue.Logging
