import ManagedQueue.CommandLine.Reader
import ManagedQueue.Program.Execute

namespace ManagedQueue

open CommandLine (Invocation Options)

structure Context where
  /-- The configuration file if none is named. -/
  defaultConfiguration : Option String
  /-- Whether the output goes to a terminal. -/
  terminal : Bool
  build : Build

def defaultConfigurationFile : String := "/Queuegate/queuegate.toml"

structure Ending where
  code : UInt32
  output : String := ""
deriving DecidableEq

variable {m : Type → Type} [Monad m]

def readConfiguration (w : Surroundings m) (path : String) :
    m (Except ProgramError Configuration) := do
  match ← w.readText path with
  | .error fault => return .error (.unreadableConfiguration path fault.message)
  | .ok text =>
    match Configuration.read? text with
    | some c => return .ok c
    | none => return .error (.malformedConfiguration path)

/-- The configuration and the file that it came from. A file that the user names has to be there;
the default one need not. -/
def findConfiguration (w : Surroundings m) (x : Context) (named : Option String) :
    m (Except ProgramError (Configuration × Option String)) := do
  match named, x.defaultConfiguration with
  | some path, _ =>
    if ← w.isThere path then return (← readConfiguration w path).map (·, some path)
    else return .error (.missingConfiguration path)
  | none, some path =>
    if ← w.isThere path then return (← readConfiguration w path).map (·, some path)
    else return .ok ({}, none)
  | none, none => return .ok ({}, none)

/-- Options go before the configuration. -/
def logFormat (o : Options) (c : Configuration) : Except String Logging.Format :=
  match o.logFormat, c.log.format with
  | some format, _ => .ok format
  | none, some name => Logging.Format.read name
  | none, none => .ok .text

def logFilter (o : Options) (c : Configuration) : Except String Logging.Filter :=
  let spec := ((o.logLevel.map (·.name)).orElse fun _ => c.log.level).getD "info"
  match Logging.Filter.parse spec with
  | .ok filter => .ok filter
  | .error text => .error s!"Failed to parse log specification: {text}"

def logFileFault : FileFault → String
  | .isDirectory => "Log file cannot be written because the specified path is a directory"
  | _ => "Log cannot be written, e.g. because the configured output directory is not accessible"

def beginLogFile (w : Surroundings m) : Option String → m (Except String Unit)
  | none => return .ok ()
  | some path => do
    if path.isEmpty then return .error (logFileFault .isDirectory)
    match ← w.begin path with
    | .ok () => return .ok ()
    | .error fault => return .error (logFileFault fault)

def beginLogging (w : Surroundings m) (o : Options) (c : Configuration) (color : Bool) :
    m (Except String Logger) := do
  match logFormat o c, logFilter o c with
  | .error text, _ => return .error text
  | .ok _, .error text => return .error text
  | .ok format, .ok filter =>
    let file := o.logFile.orElse fun _ => c.log.file
    match ← beginLogFile w file with
    | .error text => return .error text
    | .ok () => return .ok { filter, style := { format, color }, file }

def configurationNote : Option String → LogRecord
  | some path => ⟨.debug, .startup, s!"using configuration {path}"⟩
  | none => ⟨.debug, .startup, "no configuration file, using defaults"⟩

def fail (w : Surroundings m) (e : ProgramError) : m Ending := do
  w.tell s!"Error: {e.message}"
  return { code := 1 }

def run (w : Surroundings m) (x : Context) (i : Invocation) : m Ending := do
  match ← findConfiguration w x i.options.configFile with
  | .error e => fail w e
  | .ok (configuration, path) =>
    -- Flags go before the configuration, and that before what the terminal suggests.
    let color := (i.options.colorChoice.orElse fun _ => configuration.log.color).getD x.terminal
    match ← beginLogging w i.options configuration color with
    | .error text => fail w (.logging text)
    | .ok logger =>
      logger.log w [configurationNote path]
      let setting : Setting :=
        { configuration
          stateFile := i.options.stateFile.orElse fun _ => configuration.stateFile
          presentation := .choose i.options.json color
          build := x.build }
      match ← execute w (logger.log w) setting i.command with
      | .ok output => return { code := 0, output }
      | .error e =>
        logger.log w (e.report i.command.name)
        return { code := 1 }

def usage : String :=
  "Usage: queuegate [OPTIONS] <COMMAND>\n\nCommands: " ++
    String.intercalate ", " (CommandLine.Form.all.map (·.name)) ++ ", " ++
    CommandLine.Options.helpName

def refuse (w : Surroundings m) (refusal : CommandLine.Refusal) : m Ending := do
  match refusal with
  | .help => return { code := 0, output := usage }
  | .version => return { code := 0, output := s!"{Build.name} {Build.version}" }
  | refusal => do
    w.tell s!"error: {refusal.message}\n\n{usage}"
    return { code := 2 }

def start (w : Surroundings m) (x : Context) (arguments : List String) : m Ending :=
  match CommandLine.read arguments with
  | .ok invocation => run w x invocation
  | .error refusal => refuse w refusal

def Ending.printed (e : Ending) : String := if e.output.isEmpty then "" else e.output ++ "\n"

end ManagedQueue
