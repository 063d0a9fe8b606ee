import UptimeAlert.Log
import UptimeAlert.Template.Block
import UptimeAlert.Template.Substitution
import UptimeAlert.Template.ZonedTime

namespace UptimeAlert.Template

/-- The settings of rendering: the marker that stands for absent values. -/
structure Renderer where
  missing : String
  deriving DecidableEq, Repr

/-- A template and what it is rendered against. -/
structure Context where
  template : String
  monitor : Option Monitor
  heartbeat : Option Heartbeat
  deriving Repr

/-- A template without the blanks around it, unless nothing is left of it. -/
def given? (template : Option String) : Option String :=
  let stripped := Text.strip (template.getD "").toList
  if stripped.isEmpty then none else some (String.ofList stripped)

namespace Renderer

variable [Platform]

/-- Replaces the time placeholders of a text if the time of the heartbeat reads as an instant. -/
def localizeTimes (h : Heartbeat) (text : List Char) : List Char :=
  match Heartbeat.instantOf? h.time with
  | some i => ZonedTime.localize i text
  | none => text

/-- Expands what depends on the heartbeat besides tokens. A time that does not read as an instant is
told to the log, so it has to be one that can be written. -/
def expandHeartbeat (heartbeat : Option Heartbeat) (text : List Char) :
    Except RenderError (List Char) :=
  match heartbeat with
  | none => .ok text
  | some h => do
    let status ← Status.ofValue h.status
    h.time.ifWritable (Block.resolve status (localizeTimes h text))

def render (r : Renderer) (template : String) (monitor : Option Monitor)
    (heartbeat : Option Heartbeat) : Except RenderError String := do
  let text ← expandHeartbeat heartbeat template.toList
  let dictionary ← Dictionary.build monitor heartbeat
  let rendered ← dictionary.substitute? r.missing.toList text
  return String.ofList rendered

/-- What is told of the time of a heartbeat: that it does not read as an instant, or the zones whose
placeholders stay. -/
def timeLog (h : Heartbeat) (template : String) : List LogEntry :=
  match Heartbeat.instantOf? h.time with
  | none =>
    [⟨.warning, "Unparseable heartbeat time " ++ String.ofList h.time.quoted ++
      ", skipping time zones"⟩]
  | some i =>
    (ZonedTime.skipped i template.toList).map fun zone =>
      ⟨.debug, "Skipping time zone that cannot be rendered: " ++ String.ofList zone⟩

/-- What is told before tokens are put; of the time only if the heartbeat has a verdict and the time
can be written. -/
def expansionLog (template : String) (heartbeat : Option Heartbeat) : List LogEntry :=
  ⟨.debug, "Before variable expansion: " ++ template⟩ ::
    match heartbeat with
    | none => []
    | some h =>
      if (Status.ofValue? h.status).isSome && h.time.isWritable then timeLog h template else []

def renderLog (r : Renderer) (template : String) (monitor : Option Monitor)
    (heartbeat : Option Heartbeat) : List LogEntry :=
  expansionLog template heartbeat ++
    match r.render template monitor heartbeat with
    | .ok text => [⟨.debug, "After variable expansion: " ++ text⟩]
    | .error _ => []

/-- The result of rendering one template of many: its text, or the value that is no verdict. A fault
is one of the whole. -/
def tryRender (r : Renderer) (c : Context) : Except RenderFault (Except Value String) :=
  match r.render c.template c.monitor c.heartbeat with
  | .ok text => .ok (.ok text)
  | .error (.invalidStatus v) => .ok (.error v)
  | .error (.fault f) => .error f

/-- What is told when one template of many is rendered. -/
def tryRenderLog (r : Renderer) (c : Context) : List LogEntry :=
  r.renderLog c.template c.monitor c.heartbeat ++
    match r.tryRender c with
    | .ok (.error v) =>
      [⟨.warning, "Template not rendered: " ++ (RenderError.invalidStatus v).message⟩]
    | _ => []

/-- Renders independent templates. One whose heartbeat has no verdict does not affect the others. -/
def renderMany (r : Renderer) (contexts : List Context) :
    Except RenderFault (List (Except Value String)) :=
  contexts.mapM r.tryRender

end Renderer

end UptimeAlert.Template
