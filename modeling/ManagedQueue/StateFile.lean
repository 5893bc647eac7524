import ManagedQueue.Backend
import ManagedQueue.Json.Access
import ManagedQueue.Json.Reader
import ManagedQueue.Json.Writer

namespace ManagedQueue

open Json

def Layout.toJson (l : Layout) : Json :=
  .record [("partitions", ofNat l.partitions.toNat), ("replications", ofNat l.replications.toNat)]

def Layout.ofJson? (v : Json) : Option Layout := do
  match ← v.fields? ["partitions", "replications"] with
  | [partitions, replications] =>
    return { partitions := ← required uint32? partitions
             replications := ← required uint32? replications }
  | _ => none

def GroupRecord.toJson (r : GroupRecord) : Json :=
  .record [("group", text r.group), ("queue", text r.queue), ("write", .bool r.write),
    ("read", .bool r.read), ("url", text r.url), ("ips", texts r.ips)]

def GroupRecord.ofJson? (v : Json) : Option GroupRecord := do
  match ← v.fields? ["group", "queue", "write", "read", "url", "ips"] with
  | [group, queue, write, read, url, ips] =>
    return { group := ← required text? group
             queue := ← required text? queue
             write := ← required bool? write
             read := ← required bool? read
             url := ← required text? url
             ips := ← required (list? text?) ips }
  | _ => none

def QueueEntry.toJson (e : QueueEntry) : Json :=
  .record [("ctime", .int e.ctime.toInt), ("groups", ofMap GroupRecord.toJson e.groups)]

def QueueEntry.ofJson? (v : Json) : Option QueueEntry := do
  match ← v.fields? ["ctime", "groups"] with
  | [ctime, groups] =>
    return { ctime := ← required int64? ctime
             groups := ← defaulted ∅ (map? GroupRecord.ofJson?) groups }
  | _ => none

def Metadata.toJson (m : Metadata) : Json :=
  .record [("queues", ofMap QueueEntry.toJson m.queues)]

def Metadata.ofJson? (v : Json) : Option Metadata := do
  match ← v.fields? ["queues"] with
  | [queues] => return { queues := ← defaulted ∅ (map? QueueEntry.ofJson?) queues }
  | _ => none

def payloadJson (p : Payload) : Json := ofList (fun b => ofNat b.toNat) p

def payload? : Json → Option Payload := list? uint8?

def offset? : Json → Option Nat := nat? UInt64.size

def transportJson (logs : NameMap (List Payload)) (offsets : NameMap (NameMap Nat)) : Json :=
  .record [("logs", ofMap (ofList payloadJson) logs),
    ("offsets", ofMap (ofMap ofNat) offsets)]

/-- Of the parts that are read back, those that hold a collection may be absent and are then empty. -/
def transport? (v : Json) : Option (NameMap (List Payload) × NameMap (NameMap Nat)) := do
  match ← v.fields? ["logs", "offsets"] with
  | [logs, offsets] =>
    return (← defaulted ∅ (map? (list? payload?)) logs,
      ← defaulted ∅ (map? (map? offset?)) offsets)
  | _ => none

def CountedEvent.toJson (e : CountedEvent) : Json :=
  .record [("at", .int e.time.toInt), ("count", ofNat e.count.toNat)]

def CountedEvent.ofJson? (v : Json) : Option CountedEvent := do
  match ← v.fields? ["at", "count"] with
  | [time, count] =>
    return { time := ← required int64? time, count := ← required uint64? count }
  | _ => none

def Counters.toJson (c : Counters) : Json :=
  .record [("send", ofList CountedEvent.toJson c.send),
    ("receive", ofList CountedEvent.toJson c.receive)]

def Counters.ofJson? (v : Json) : Option Counters := do
  match ← v.fields? ["send", "receive"] with
  | [send, receive] =>
    return { send := ← defaulted [] (list? CountedEvent.ofJson?) send
             receive := ← defaulted [] (list? CountedEvent.ofJson?) receive }
  | _ => none

def Metrics.toJson (m : Metrics) : Json :=
  .record [("queues", ofMap (ofMap Counters.toJson) m.queues)]

def Metrics.ofJson? (v : Json) : Option Metrics := do
  match ← v.fields? ["queues"] with
  | [queues] => return { queues := ← defaulted ∅ (map? (map? Counters.ofJson?)) queues }
  | _ => none

namespace Snapshot

def toJson (s : Snapshot) : Json :=
  .record [("topics", ofMap Layout.toJson s.topics), ("metadata", s.metadata.toJson),
    ("transport", transportJson s.logs s.offsets), ("metrics", s.metrics.toJson)]

def ofJson? (v : Json) : Option Snapshot := do
  match ← v.fields? ["topics", "metadata", "transport", "metrics"] with
  | [topics, metadata, transport, metrics] =>
    let (logs, offsets) ← defaulted (∅, ∅) transport? transport
    return { topics := ← defaulted ∅ (map? Layout.ofJson?) topics
             metadata := ← defaulted {} Metadata.ofJson? metadata
             logs
             offsets
             metrics := ← defaulted {} Metrics.ofJson? metrics }
  | _ => none

def write (s : Snapshot) : String := pretty s.toJson

def read? (text : String) : Option Snapshot := (parse? text).bind ofJson?

end Snapshot

end ManagedQueue
