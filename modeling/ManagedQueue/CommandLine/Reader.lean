import ManagedQueue.CommandLine.Form

namespace ManagedQueue.CommandLine

namespace Options

def helpName : String := "help"

def toggle (given : Options → Bool) (put : Options → Options) : Effect Options :=
  .flag (flagOnce given put)

def switches : List (Switch Options) :=
  [{ long := "config-file"
     short := some 'c'
     effect := .value false
       (once configFile (fun o v => { o with configFile := some v }) pathText) },
   { long := "state-file"
     short := some 's'
     effect := .value false
       (once stateFile (fun o v => { o with stateFile := some v }) pathText) },
   { long := "log-level"
     short := some 'l'
     effect := .value false
       (once logLevel (fun o v => { o with logLevel := some v })
         (oneOf Logging.Threshold.ofName?)) },
   { long := "log-format"
     short := some 'o'
     effect := .value false
       (once logFormat (fun o v => { o with logFormat := some v })
         (oneOf Logging.Format.ofName?)) },
   { long := "log-file"
     short := some 'f'
     effect := .value false (once logFile (fun o v => { o with logFile := some v }) pathText) },
   { long := "color"
     effect := toggle color fun o => { o with color := true, noColor := false } },
   { long := "no-color"
     effect := toggle noColor fun o => { o with color := false, noColor := true } },
   { long := "json", effect := .flag (flagOnce json fun o => { o with json := true }) },
   helpSwitch,
   { long := "version", short := some 'V', effect := .flag fun _ => .error .version }]

/-- No word but a command's name has a place here, and after `--` not even that. -/
def grammar : Grammar Options where
  switches
  hasRoom _ := false
  put o _ := o
  stray literal word :=
    if literal && ((Form.named? word).isSome || word = helpName) then .unknownArgument
    else .unknownCommand

end Options

def helpOn : List String → Refusal
  | [] => .help
  | [name] =>
    if (Form.named? name).isSome || name = Options.helpName then .help else .unknownCommand
  | _ => .unknownCommand

def unnamed (options : Options) : Refusal := if options = {} then .empty else .missingCommand

def readFrom (s : Scan Options) : List String → Except Refusal Invocation
  | [] => do throw (unnamed (← s.settle).draft)
  | argument :: rest => do
    -- What belongs to an option, or stands after the mark, names no command.
    if s.literal || s.awaited.isSome then readFrom (← Options.grammar.take s argument) rest
    else if argument = Options.helpName then throw (helpOn rest)
    else
      match Form.named? argument with
      | none => readFrom (← Options.grammar.take s argument) rest
      | some form => do
        let command ← form.read rest
        return { options := (← s.settle).draft, command }

def read (arguments : List String) : Except Refusal Invocation :=
  readFrom { draft := {} } arguments

end ManagedQueue.CommandLine
