import UptimeAlert.CommandLine.Folder
import UptimeAlert.CommandLine.Request
import UptimeAlert.Json.Reader
import UptimeAlert.Monitor
import UptimeAlert.Heartbeat
import UptimeAlert.Platform
import UptimeAlert.Text.Lines

namespace UptimeAlert.CommandLine

open UptimeAlert.Text

variable [Platform]

/-- Files as they can be opened: the bytes of each path, or why there are none. -/
abbrev Files := Path → Except OpenError (List UInt8)

inductive InputError where
  | unopened (e : OpenError) (path : Path)
  | undecodable (fault : Utf8.Fault)
  | malformed (text : List Char) (fault : Json.Fault)
  | nestedTooDeep (shape : Composite)
  | notARecord (path : Path)
  | fieldMissing (field : RequiredField)
  deriving DecidableEq, Repr

def InputError.message : InputError → String
  | .unopened e path => e.message path
  | .undecodable fault => fault.message
  | .malformed text fault => fault.message text
  | .nestedTooDeep shape => Json.tooDeepMessage shape
  | .notARecord path => path.text ++ " must contain a JSON object"
  | .fieldMissing field => field.message

/-- The text of a file, with line feeds for all line breaks. -/
def readText (files : Files) (path : Path) : Except InputError (List Char) :=
  match files path with
  | .error e => .error (.unopened e path)
  | .ok bytes =>
    match Utf8.decode bytes with
    | .error fault => .error (.undecodable fault)
    | .ok text => .ok (unifyBreaks text)

def readFields (files : Files) (path : Path) : Except InputError Fields := do
  let text ← readText files path
  match Json.readUnmarked Platform.nesting text with
  | .error (.tooDeep shape) => .error (.nestedTooDeep shape)
  | .error fault => .error (.malformed text fault)
  | .ok (.record fields) => .ok fields
  | .ok _ => .error (.notARecord path)

structure Input where
  monitor : Option Monitor
  heartbeat : Option Heartbeat
  template : Option String
  deriving Repr

namespace Input

def loadMonitor (files : Files) : Option Path → Except InputError (Option Monitor)
  | none => .ok none
  | some path => (readFields files path).map fun fields => some (Monitor.ofFields fields)

def loadHeartbeat (files : Files) : Option Path → Except InputError (Option Heartbeat)
  | none => .ok none
  | some path => do
    let fields ← readFields files path
    match Heartbeat.ofFields fields with
    | .ok h => .ok (some h)
    | .error field => .error (.fieldMissing field)

def loadTemplate (files : Files) : Option TemplateInput → Except InputError (Option String)
  | none => .ok none
  | some (.text template) => .ok (some template)
  | some (.file path) => (readText files path).map fun text => some (String.ofList text)

/-- Loads what a request is about, the monitor first and the template last. -/
def load (files : Files) (r : Request) : Except InputError Input := do
  let monitor ← loadMonitor files r.monitor
  let heartbeat ← loadHeartbeat files r.heartbeat
  let template ← loadTemplate files r.template
  return ⟨monitor, heartbeat, template⟩

end Input

end UptimeAlert.CommandLine
