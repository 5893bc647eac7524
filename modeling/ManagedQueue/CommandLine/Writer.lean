import ManagedQueue.CommandLine.Reader

namespace ManagedQueue.CommandLine

def option (name : String) : String := "--" ++ name

def assigned (name value : String) : String := option name ++ "=" ++ value

def ifGiven (name : String) : Option String → List String
  | some value => [assigned name value]
  | none => []

def ifSet (name : String) (set : Bool) : List String := if set then [option name] else []

def colorFlags (choices : List Bool) : List String :=
  choices.map fun choice => option (if choice then "color" else "no-color")

namespace Options

/-- The options with any colour flags in place of their own. -/
def argumentsWith (o : Options) (choices : List Bool) : List String :=
  ifGiven "config-file" o.configFile ++ ifGiven "state-file" o.stateFile ++
    ifGiven "log-level" (o.logLevel.map (·.name)) ++
    ifGiven "log-format" (o.logFormat.map (·.name)) ++ ifGiven "log-file" o.logFile ++
    colorFlags choices ++ ifSet "json" o.json

def arguments (o : Options) : List String := o.argumentsWith o.colorChoice.toList

end Options

def accessArguments (a : Access) : List String :=
  ifSet "write" a.write ++ ifSet "read" a.read ++ [assigned "url" a.url] ++
    a.ips.map (assigned "ip")

def timeText (t : Int64) : String := Text.showInt t.toInt

def spanArguments (group : String) (s : Span) : List String :=
  [assigned "group" group] ++ ifGiven "start" (s.start.map timeText) ++
    ifGiven "end" (s.stop.map timeText) ++
    [assigned "buckets" (Text.showNat s.buckets.toNat)]

namespace Command

def options : Command → List String
  | .lookupQueue queue group => [assigned "queue" queue, assigned "group" group]
  | .addGroup _ _ access => accessArguments access
  | .updateGroup _ _ access => accessArguments access
  | .lookupGroup group => [assigned "group" group]
  | .receive _ _ timeout => [assigned "timeout" (Text.showNat timeout.toNat)]
  | .volume _ _ group span => spanArguments group span
  | _ => []

def words : Command → List String
  | .createQueue queue => [queue]
  | .updateQueue queue => [queue]
  | .deleteQueue queue => [queue]
  | .addGroup group queue _ => [group, queue]
  | .updateGroup group queue _ => [group, queue]
  | .deleteGroup group queue => [group, queue]
  | .getGroup group queue => [group, queue]
  | .send queue group message => [queue, group, message]
  | .receive queue group _ => [queue, group]
  | .acknowledge queue group => [queue, group]
  | .volume _ queue _ _ => [queue]
  | _ => []

def afterMark : List String → List String
  | [] => []
  | words => "--" :: words

def arguments (c : Command) : List String := c.name :: c.options ++ afterMark c.words

end Command

def Invocation.arguments (i : Invocation) : List String :=
  i.options.arguments ++ i.command.arguments

end ManagedQueue.CommandLine
