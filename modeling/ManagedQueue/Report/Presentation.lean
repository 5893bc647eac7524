import ManagedQueue.Json.Writer
import ManagedQueue.Report.Format
import ManagedQueue.Report.Text

namespace ManagedQueue

inductive Presentation where
  | text (color : Bool)
  | json
deriving DecidableEq

namespace Presentation

def choose (json color : Bool) : Presentation := if json then .json else .text color

def render (p : Presentation) (value : Json) (shown : Bool → String) : String :=
  match p with
  | .json => value.pretty
  | .text color => shown color

def queues (p : Presentation) (infos : List QueueInfo) : String :=
  p.render (.ofList QueueInfo.toJson infos) (showQueues · infos)

def groups (p : Presentation) (infos : List GroupInfo) : String :=
  p.render (.ofList GroupInfo.toJson infos) (showGroups · infos)

def group (p : Presentation) (config : Option GroupConfig) : String :=
  p.render (.ofOption GroupConfig.toJson config) (showGroup · config)

def series (p : Presentation) (s : Series) : String := p.render s.toJson (showSeries · s)

def findings (p : Presentation) (fs : List Finding) : String :=
  p.render (.ofList Finding.toJson fs) (showFindings · fs)

end Presentation

end ManagedQueue
