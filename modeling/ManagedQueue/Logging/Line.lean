import ManagedQueue.Calendar
import ManagedQueue.Journal
import ManagedQueue.Json.Writer
import ManagedQueue.Text.Style

namespace ManagedQueue.Logging

inductive Format where
  | text
  | ext
  | json
deriving DecidableEq

namespace Format

def name : Format → String
  | .text => "text"
  | .ext => "ext"
  | .json => "json"

def ofName? (s : String) : Option Format := [text, ext, json].find? (·.name = s)

/-- Case does not count; only ASCII letters have another case. -/
def read (s : String) : Except String Format :=
  match ofName? s.toLower with
  | some f => .ok f
  | none => .error s!"Unknown log format '{s.toLower}' (expected text, ext or json)"

end Format

def place (c : Component) : String := String.intercalate "/" c.path ++ ".rs"

def area (c : Component) : String := String.intercalate "::" ("queuegate" :: c.path)

def levelStyle : Level → Text.Style
  | .error => .alarm
  | .warn => .caution
  | .info => .notice
  | .debug => .detail

structure LineStyle where
  format : Format := .text
  color : Bool := false

namespace LineStyle

open Text (styled)

def textLine (l : LineStyle) (moment : String) (r : LogRecord) : String :=
  styled l.color .faint moment ++ " " ++ styled l.color (levelStyle r.level) r.level.abbreviation ++
    " " ++ r.text

def line (l : LineStyle) (millis : Int) (r : LogRecord) : String :=
  match l.format with
  | .text => l.textLine (Calendar.stamp ' ' millis) r
  | .ext =>
    l.textLine (Calendar.stamp ' ' millis) r ++ " (" ++
      styled l.color .faint (place r.component) ++ ")"
  | .json =>
    Json.compact (.record
      [("level", .text r.level.abbreviation), ("message", .text r.text),
        ("target", .text (place r.component)),
        ("timestamp", .text (Calendar.stamp 'T' millis ++ "Z"))])

end LineStyle

end ManagedQueue.Logging
