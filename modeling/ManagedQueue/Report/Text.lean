import ManagedQueue.Calendar
import ManagedQueue.Report
import ManagedQueue.Text.Style

namespace ManagedQueue

open Text (styled)

def lines (ls : List String) : String := String.intercalate "\n" ls

namespace Access

def marks (a : Access) : String := (if a.read then "r" else "-") ++ (if a.write then "w" else "-")

def line (color : Bool) (name : String) (a : Access) : String :=
  "  " ++ styled color .heading name ++ " " ++ a.marks ++
    (if a.url.isEmpty then "" else " " ++ styled color .label "url:" ++ " " ++ a.url) ++
    (if a.ips.isEmpty then ""
      else " " ++ styled color .label "ips:" ++ " " ++ String.intercalate "," a.ips)

end Access

def nameOr : Option String → String
  | some name => name
  | none => "?"

def QueueInfo.headline (color : Bool) (i : QueueInfo) : String :=
  styled color .heading i.queue ++ " " ++ styled color .label "created:" ++ " " ++
    Calendar.showTime i.ctime.toInt ++ " " ++ styled color .label "length:" ++ " " ++
    Text.showNat i.length.toNat

def showQueues (color : Bool) : List QueueInfo → String
  | [] => "No queues."
  | infos => lines (infos.flatMap fun i =>
      i.headline color :: i.groups.map fun c => c.access.line color (nameOr c.group))

def showGroups (color : Bool) : List GroupInfo → String
  | [] => "No groups."
  | infos => lines (infos.flatMap fun i =>
      styled color .heading i.group :: i.queues.map fun c => c.access.line color (nameOr c.queue))

def showGroup (color : Bool) : Option GroupConfig → String
  | none => "No such group on this queue."
  | some c => lines
      [styled color .heading (nameOr c.group) ++ " @ " ++ nameOr c.queue,
        c.access.line color "access"]

def Bucket.line (b : Bucket) : String :=
  "  [" ++ Text.showInt b.start.toInt ++ ", " ++ Text.showInt b.stop.toInt ++ ") " ++
    Text.showNat b.count.toNat

def showSeries (color : Bool) (s : Series) : String :=
  let scope := if s.group.isEmpty then s.queue else s.queue ++ "@" ++ s.group
  lines ((styled color .heading scope ++ " " ++ s.direction.name ++ " " ++
    styled color .label "total:" ++ " " ++ Text.showNat s.total.toNat) :: s.buckets.map Bucket.line)

def showFindings (color : Bool) : List Finding → String
  | [] => "Broker and metadata store agree."
  | findings => lines (findings.map fun f => styled color .heading f.queue ++ " " ++ f.state.name)

end ManagedQueue
