import ManagedQueue.CommandLine.Command
import ManagedQueue.Program.Error
import ManagedQueue.Report.Presentation
import ManagedQueue.Server

namespace ManagedQueue

open CommandLine (Command)

structure Build where
  commit : String := "unknown"
  time : String := "unknown"

namespace Build

def name : String := "queuegate"
def version : String := "0.1.0"
def serviceVersion : Nat := 20261019

def versionLine (b : Build) : String :=
  s!"{name} {version} (api {serviceVersion}, {b.commit} built {b.time})"

end Build

def CommandLine.Command.request? (now : Int64) : Command → Option Request
  | .createQueue queue => some (.createQueue queue)
  | .updateQueue queue => some (.updateQueue queue)
  | .deleteQueue queue => some (.deleteQueue queue)
  | .lookupQueue queue group => some (.lookupQueue queue group)
  | .addGroup group queue access => some (.addGroup group queue access)
  | .updateGroup group queue access => some (.updateGroup group queue access)
  | .deleteGroup group queue => some (.deleteGroup group queue)
  | .lookupGroup group => some (.lookupGroup group)
  | .getGroup group queue => some (.getGroup group queue)
  | .send queue group message => some (.send queue group (Text.toBytes message))
  | .receive queue group _ => some (.receive queue group)
  | .acknowledge queue group => some (.acknowledge queue group)
  | .volume direction queue group span => some (.volume direction queue group (span.window now))
  | .audit => some .audit
  | .version => none

namespace Presentation

def said (p : Presentation) (fields : List (String × Json)) (sentence : String) : String :=
  p.render (.record fields) fun _ => sentence

def sent (p : Presentation) (queue message : String) : String :=
  let size := message.utf8ByteSize
  p.said [("sent", .ofNat size)] s!"Sent {size} bytes to {queue}"

/-- A message is shown as text, whatever its bytes are. -/
def received (p : Presentation) (bytes : Payload) : String :=
  let message := Text.ofBytesLossy bytes
  p.said [("message", .text message)] message

def access (p : Presentation) (a : Access) (sentence : String) : String :=
  p.render a.toJson fun _ => sentence

def output (p : Presentation) : Command → Answer → String
  | .createQueue queue, _ => p.said [("created", .text queue)] s!"Created queue {queue}"
  | .updateQueue queue, _ => p.said [("updated", .text queue)] s!"Queue {queue} is up to date"
  | .deleteQueue queue, _ => p.said [("deleted", .text queue)] s!"Deleted queue {queue}"
  | .addGroup group queue a, _ => p.access a s!"Added group {group} to queue {queue}"
  | .updateGroup group queue a, _ => p.access a s!"Updated group {group} on queue {queue}"
  | .deleteGroup group queue, _ =>
    p.said [("deleted", .text group), ("queue", .text queue)]
      s!"Deleted group {group} from queue {queue}"
  | .send queue _ message, _ => p.sent queue message
  | _, .queues infos => p.queues infos
  | _, .groups infos => p.groups infos
  | _, .group config => p.group config
  | _, .payload bytes => p.received bytes
  | _, .series s => p.series s
  | _, .findings fs => p.findings fs
  | _, _ => ""

end Presentation

/-- The failure of a command that gets no answer. Only receiving ever waits for one. -/
def CommandLine.Command.unanswered : Command → ProgramError
  | .receive queue group timeout => .receiveTimeout queue group timeout
  | c => .state ⟨.internal, s!"no answer to {c.name}"⟩

end ManagedQueue
