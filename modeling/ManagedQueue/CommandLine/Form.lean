import ManagedQueue.CommandLine.Command
import ManagedQueue.CommandLine.Grammar
import ManagedQueue.Text.Decimal

namespace ManagedQueue.CommandLine

structure Draft where
  words : List String := []
  queue : Option String := none
  group : Option String := none
  url : Option String := none
  write : Bool := false
  read : Bool := false
  ips : List String := []
  timeout : Option UInt64 := none
  start : Option Int64 := none
  stop : Option Int64 := none
  buckets : Option UInt32 := none

structure Form where
  name : String
  words : Nat := 0
  switches : List (Switch Draft) := []
  build : Draft → Option Command

section Effects

variable {σ α : Type}

/-- An option that stands at most once; a second one is refused before its value is read. -/
def once (field : σ → Option α) (put : σ → α → σ) (value : String → Except Refusal α) (d : σ)
    (written : String) : Except Refusal σ :=
  if (field d).isSome then .error .repeated else (value written).map (put d)

def flagOnce (field : σ → Bool) (put : σ → σ) (d : σ) : Except Refusal σ :=
  if field d then .error .repeated else .ok (put d)

def anyText (written : String) : Except Refusal String := .ok written

def pathText (written : String) : Except Refusal String :=
  if written.isEmpty then .error .badValue else .ok written

def oneOf (ofName? : String → Option α) (written : String) : Except Refusal α :=
  match ofName? written with
  | some a => .ok a
  | none => .error .badValue

def wholeNumber (low high : Int) (written : String) : Except Refusal Int :=
  match Text.intOf? written.toList with
  | none => .error .unreadableValue
  | some n => if low ≤ n ∧ n ≤ high then .ok n else .error .unreadableValue

/-- A minus sign is refused even before zero. -/
def unsigned64 (written : String) : Except Refusal UInt64 :=
  if written.toList.head? = some '-' then .error .unreadableValue
  else (wholeNumber 0 ((UInt64.size : Int) - 1) written).map fun n => UInt64.ofNat n.toNat

def unsigned32 (written : String) : Except Refusal UInt32 :=
  (wholeNumber 0 ((UInt32.size : Int) - 1) written).map fun n => UInt32.ofNat n.toNat

def signed64 (written : String) : Except Refusal Int64 :=
  (wholeNumber Int64.minValue.toInt Int64.maxValue.toInt written).map Int64.ofInt

end Effects

def helpSwitch {σ : Type} : Switch σ where
  long := "help"
  short := some 'h'
  effect := .flag fun _ => .error .help

namespace Draft

def queueSwitch : Switch Draft where
  long := "queue"
  effect := .value false (once queue (fun d v => { d with queue := some v }) anyText)

def groupSwitch : Switch Draft where
  long := "group"
  effect := .value false (once group (fun d v => { d with group := some v }) anyText)

def accessSwitches : List (Switch Draft) :=
  [{ long := "write", effect := .flag (flagOnce write fun d => { d with write := true }) },
   { long := "read", effect := .flag (flagOnce read fun d => { d with read := true }) },
   { long := "url"
     effect := .value false (once url (fun d v => { d with url := some v }) anyText) },
   { long := "ip"
     effect := .value false fun d v => .ok { d with ips := d.ips ++ [v] } }]

def timeoutSwitch : Switch Draft where
  long := "timeout"
  effect := .value false (once timeout (fun d v => { d with timeout := some v }) unsigned64)

def spanSwitches : List (Switch Draft) :=
  [groupSwitch,
   { long := "start"
     effect := .value true (once start (fun d v => { d with start := some v }) signed64) },
   { long := "end"
     effect := .value true (once stop (fun d v => { d with stop := some v }) signed64) },
   { long := "buckets"
     effect := .value false (once buckets (fun d v => { d with buckets := some v }) unsigned32) }]

def access (d : Draft) : Access :=
  { write := d.write, read := d.read, url := d.url.getD "", ips := d.ips }

def defaultTimeout : UInt64 := 5
def defaultBuckets : UInt32 := 12

def span (d : Draft) : Span :=
  { start := d.start, stop := d.stop, buckets := d.buckets.getD defaultBuckets }

end Draft

namespace Form

def ofOneWord (name : String) (switches : List (Switch Draft))
    (build : Draft → String → Command) : Form where
  name
  words := 1
  switches
  build d :=
    match d.words with
    | [a] => some (build d a)
    | _ => none

def ofTwoWords (name : String) (switches : List (Switch Draft))
    (build : Draft → String → String → Command) : Form where
  name
  words := 2
  switches
  build d :=
    match d.words with
    | [a, b] => some (build d a b)
    | _ => none

def ofThreeWords (name : String) (build : String → String → String → Command) : Form where
  name
  words := 3
  build d :=
    match d.words with
    | [a, b, c] => some (build a b c)
    | _ => none

def withoutWords (name : String) (switches : List (Switch Draft)) (build : Draft → Command) :
    Form where
  name
  switches
  build d := some (build d)

def all : List Form :=
  [ofOneWord "create-queue" [] fun _ queue => .createQueue queue,
   ofOneWord "update-queue" [] fun _ queue => .updateQueue queue,
   ofOneWord "delete-queue" [] fun _ queue => .deleteQueue queue,
   withoutWords "lookup-queue" [Draft.queueSwitch, Draft.groupSwitch]
     fun d => .lookupQueue (d.queue.getD "") (d.group.getD ""),
   ofTwoWords "add-group" Draft.accessSwitches
     fun d group queue => .addGroup group queue d.access,
   ofTwoWords "update-group" Draft.accessSwitches
     fun d group queue => .updateGroup group queue d.access,
   ofTwoWords "delete-group" [] fun _ group queue => .deleteGroup group queue,
   withoutWords "lookup-group" [Draft.groupSwitch] fun d => .lookupGroup (d.group.getD ""),
   ofTwoWords "get-group" [] fun _ group queue => .getGroup group queue,
   ofThreeWords "send" .send,
   ofTwoWords "receive" [Draft.timeoutSwitch]
     fun d queue group => .receive queue group (d.timeout.getD Draft.defaultTimeout),
   ofTwoWords "ack" [] fun _ queue group => .acknowledge queue group,
   ofOneWord "send-metrics" Draft.spanSwitches
     fun d queue => .volume .send queue (d.group.getD "") d.span,
   ofOneWord "receive-metrics" Draft.spanSwitches
     fun d queue => .volume .receive queue (d.group.getD "") d.span,
   withoutWords "audit" [] fun _ => .audit,
   withoutWords "version" [] fun _ => .version]

def named? (name : String) : Option Form := all.find? (·.name = name)

def grammar (f : Form) : Grammar Draft where
  switches := f.switches ++ [helpSwitch]
  hasRoom d := d.words.length < f.words
  put d word := { d with words := d.words ++ [word] }
  stray _ _ := .unknownArgument

def read (f : Form) (arguments : List String) : Except Refusal Command := do
  match f.build (← f.grammar.read {} arguments) with
  | some command => return command
  | none => throw .missingWord

end Form

end ManagedQueue.CommandLine
