import ManagedQueue.Json.Access
import ManagedQueue.Report

namespace ManagedQueue

open Json

namespace Access

def fields (a : Access) : List (String × Json) :=
  [("write", .bool a.write), ("read", .bool a.read), ("url", text a.url), ("ips", texts a.ips)]

def toJson (a : Access) : Json := .record a.fields

end Access

namespace GroupConfig

def nameField (label : String) : Option String → List (String × Json)
  | some name => [(label, text name)]
  | none => []

def toJson (c : GroupConfig) : Json :=
  .record (nameField "group" c.group ++ nameField "queue" c.queue ++ c.access.fields)

def ofJson? (v : Json) : Option GroupConfig := do
  match ← v.fields? ["group", "queue", "write", "read", "url", "ips"] with
  | [group, queue, write, read, url, ips] =>
    return { group := ← defaulted none (option? text?) group
             queue := ← defaulted none (option? text?) queue
             access :=
               { write := ← required bool? write
                 read := ← required bool? read
                 url := ← required text? url
                 ips := ← required (list? text?) ips } }
  | _ => none

end GroupConfig

def QueueInfo.toJson (i : QueueInfo) : Json :=
  .record [("queue", text i.queue), ("ctime", .int i.ctime.toInt), ("length", ofNat i.length.toNat),
    ("groups", ofList GroupConfig.toJson i.groups)]

def QueueInfo.ofJson? (v : Json) : Option QueueInfo := do
  match ← v.fields? ["queue", "ctime", "length", "groups"] with
  | [queue, ctime, length, groups] =>
    return { queue := ← required text? queue
             ctime := ← required int64? ctime
             length := ← required uint64? length
             groups := ← required (list? GroupConfig.ofJson?) groups }
  | _ => none

def GroupInfo.toJson (i : GroupInfo) : Json :=
  .record [("group", text i.group), ("queues", ofList GroupConfig.toJson i.queues)]

def GroupInfo.ofJson? (v : Json) : Option GroupInfo := do
  match ← v.fields? ["group", "queues"] with
  | [group, queues] =>
    return { group := ← required text? group
             queues := ← required (list? GroupConfig.ofJson?) queues }
  | _ => none

/-- A choice among names stands as its name, or as an object with the name over null. -/
def choice? {α : Type} (named : String → Option α) : Json → Option α
  | .str (some s) => named s
  | .obj [(some s, .null)] => named s
  | _ => none

def Direction.ofName? (s : String) : Option Direction :=
  if s = "send" then some .send else if s = "receive" then some .receive else none

def Bucket.toJson (b : Bucket) : Json :=
  .record [("start", .int b.start.toInt), ("end", .int b.stop.toInt),
    ("count", ofNat b.count.toNat)]

def Bucket.ofJson? (v : Json) : Option Bucket := do
  match ← v.fields? ["start", "end", "count"] with
  | [start, stop, count] =>
    return { start := ← required int64? start
             stop := ← required int64? stop
             count := ← required uint64? count }
  | _ => none

def Series.toJson (s : Series) : Json :=
  .record [("queue", text s.queue), ("group", text s.group), ("direction", text s.direction.name),
    ("buckets", ofList Bucket.toJson s.buckets)]

def Series.ofJson? (v : Json) : Option Series := do
  match ← v.fields? ["queue", "group", "direction", "buckets"] with
  | [queue, group, direction, buckets] =>
    return { queue := ← required text? queue
             group := ← required text? group
             direction := ← required (choice? Direction.ofName?) direction
             buckets := ← required (list? Bucket.ofJson?) buckets }
  | _ => none

def Inconsistency.label : Inconsistency → String
  | .metadataOnly => "metadata_only"
  | .brokerOnly => "broker_only"

def Inconsistency.ofLabel? (s : String) : Option Inconsistency :=
  if s = "metadata_only" then some .metadataOnly
  else if s = "broker_only" then some .brokerOnly
  else none

def Finding.toJson (f : Finding) : Json :=
  .record [("queue", text f.queue), ("state", text f.state.label)]

def Finding.ofJson? (v : Json) : Option Finding := do
  match ← v.fields? ["queue", "state"] with
  | [queue, state] =>
    return { queue := ← required text? queue
             state := ← required (choice? Inconsistency.ofLabel?) state }
  | _ => none

end ManagedQueue
