import ManagedQueue.Failure
import ManagedQueue.Table
import ManagedQueue.Text.Bytes

namespace ManagedQueue

abbrev Payload := Text.Bytes

structure Session where
  queue : String
  group : String
  closed : Bool := false
deriving DecidableEq

/-- A log belongs to one incarnation of its queue's topic. It is bound to that when it is next touched, and
what an earlier incarnation left is dropped then. -/
structure Transport where
  logs : NameMap (List Payload) := ∅
  offsets : NameMap (NameMap Nat) := ∅
  bindings : NameMap Nat := ∅
  /-- Every session opened so far; a session is known by its place here. -/
  sessions : List Session := []
  /-- Every message produced and every session closed gives a wakeup; a receive that waits looks again only
  after one. -/
  wakeups : Nat := 0
deriving DecidableEq

namespace Transport

def isStale (t : Transport) (queue : String) (incarnation : Nat) : Bool :=
  (t.bindings.get? queue).any (· ≠ incarnation)

def bind (t : Transport) (queue : String) (incarnation : Nat) : Transport :=
  { t with
    logs := if t.isStale queue incarnation then t.logs.erase queue else t.logs
    offsets := if t.isStale queue incarnation then t.offsets.erase queue else t.offsets
    bindings := t.bindings.insert queue incarnation }

def log (t : Transport) (queue : String) : List Payload := t.logs.getD queue []

def groupOffsets (t : Transport) (queue : String) : NameMap Nat := t.offsets.getD queue ∅

def offset (t : Transport) (queue group : String) : Nat := (t.groupOffsets queue).getD group 0

def pending (t : Transport) (queue group : String) : Nat :=
  (t.log queue).length - t.offset queue group

def wake (t : Transport) : Transport := { t with wakeups := t.wakeups + 1 }

def append (t : Transport) (queue : String) (payload : Payload) : Transport :=
  { t with logs := t.logs.insert queue (t.log queue ++ [payload]) }.wake

def openSession (t : Transport) (queue group : String) : Nat × Transport :=
  (t.sessions.length, { t with sessions := t.sessions ++ [{ queue, group }] })

def closeSession (t : Transport) (session : Nat) : Transport :=
  { t with sessions := t.sessions.modify session ({ · with closed := true }) }.wake

def setOffset (t : Transport) (queue group : String) (n : Nat) : Transport :=
  { t with offsets := t.offsets.insert queue ((t.groupOffsets queue).insert group n) }

/-- The group's next message, if there is one. The group has an offset afterwards in any case. -/
def take (t : Transport) (queue group : String) : Option Payload × Transport :=
  let next := t.offset queue group
  match (t.log queue)[next]? with
  | some payload => (some payload, t.setOffset queue group (next + 1))
  | none => (none, t.setOffset queue group next)

end Transport

end ManagedQueue
