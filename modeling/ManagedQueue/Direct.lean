import ManagedQueue.Site

namespace ManagedQueue

inductive Direct where
  | existTopic (name : String) (force : Bool)
  | createTopic (name : String) (layout : Layout)
  | deleteTopic (name : String)
  | listTopics (force : Bool)
  | topicInfo (name : String)
  | existQueue (queue : String)
  | addQueue (queue : String)
  | deleteQueue (queue : String)
  | queueCreateTime (queue : String)
  | queueMap
  | groupMap
  | addGroup (record : GroupRecord)
  | updateGroup (record : GroupRecord)
  | deleteGroup (group queue : String)
  | groupConfig (group queue : String)
  | groupCount
  | produce (queue : String) (payload : Payload)
  | pending (queue group : String)
  | sessionsOpened
  | openSession (addresses : List String) (queue group : String)
  | receive (session : Nat)
  | close (session : Nat)
  | record (direction : Direction) (queue group : String) (count : UInt64)
  | query (direction : Direction) (queue group : String) (window : Window)
  | total (direction : Direction) (queue group : String)
  | snapshot

structure TopicInfo where
  topic : Option Topic
  refreshes : Nat

inductive Datum where
  | done
  | flag (b : Bool)
  | names (ns : List String)
  | index (names : NameMap (List String))
  | time (t : Int64)
  | record (r : Option GroupRecord)
  | number (n : Nat)
  | session (n : Nat)
  | payload (p : Option Payload)
  | series (s : Series)
  | topic (t : TopicInfo)
  | snapshot (s : Snapshot)

namespace Site

def directAddress : String := "zk"

def perform : Direct → Task (Except CollaboratorError Datum)
  | .existTopic name force => return .ok (.flag (← existTopic name force))
  | .createTopic name layout =>
    return (← createTopic name layout directAddress).map fun _ => .done
  | .deleteTopic name => return (← deleteTopic name directAddress).map fun _ => .done
  | .listTopics force => return .ok (.names (← listTopics force))
  | .topicInfo name => do
    let r := (← get).backend.registry
    return .ok (.topic ⟨r.topics.get? name, r.refreshes⟩)
  | .existQueue queue => return .ok (.flag (← existQueue queue))
  | .addQueue queue => return (← addQueue queue).map fun _ => .done
  | .deleteQueue queue => return (← deleteQueue queue).map fun _ => .done
  | .queueCreateTime queue => return (← queueCreateTime queue).map .time
  | .queueMap => return .ok (.index (← get).backend.metadata.queueMap)
  | .groupMap => return .ok (.index (← get).backend.metadata.groupMap)
  | .addGroup r => return (← addGroupConfig r).map fun _ => .done
  | .updateGroup r => return (← updateGroupConfig r).map fun _ => .done
  | .deleteGroup group queue => return (← deleteGroupConfig group queue).map fun _ => .done
  | .groupConfig group queue => return .ok (.record (← groupConfig group queue))
  | .groupCount => return .ok (.number (← get).backend.metadata.groupCount)
  | .produce queue payload => return (← produce queue payload).map fun _ => .done
  | .pending queue group => return .ok (.number (← pending queue group))
  | .sessionsOpened => return .ok (.number (← get).backend.transport.sessions.length)
  | .openSession addresses queue group =>
    return (← openSession addresses queue group).map .session
  | .receive session => return (← look session).map .payload
  | .close session => do
    closeSession session
    return .ok .done
  | .record direction queue group count => do
    record direction queue group count
    return .ok .done
  | .query direction queue group w => return (← query direction queue group w).map .series
  | .total direction queue group =>
    return .ok (.number ((← get).backend.metrics.total direction queue group).toNat)
  | .snapshot => return .ok (.snapshot (← get).backend.snapshot)

end Site

end ManagedQueue
