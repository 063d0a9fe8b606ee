import UptimeAlert.Heartbeat
import UptimeAlert.Monitor
import UptimeAlert.Template.Placeholder

namespace UptimeAlert.Template

/-- The values of tokens, each token at most once. -/
abbrev Dictionary := Fields

namespace Dictionary

def update (d : Dictionary) (entries : List (String × Value)) : Dictionary :=
  entries.foldl (fun d entry => Fields.put d entry.1 entry.2) d

/-- What tokens stand for when there is neither a monitor nor a heartbeat. -/
def defaults : Dictionary :=
  [(token "NAME", .text "Test"), (token "HOSTNAME_OR_URL", .text "testing.hostname"),
    (token "STATUS", .text "⚠️ Test")]

/-- The tokens of a monitor. An absent field is the empty text, a name that is not given is said to
be missing. -/
def ofMonitor (m : Monitor) : Except RenderError Dictionary :=
  m.target.map fun target =>
    [(token "ID", m.id.ifNull (.text "")), (token "NAME", m.name.orElse (.text "(no name)")),
      (token "HOSTNAME_OR_URL", target), (token "HOSTNAME", m.hostname.ifNull (.text "")),
      (token "PORT", m.port.ifNull (.text "")), (token "URL", m.url.ifNull (.text "")),
      (token "TYPE", m.type.ifNull (.text "")), (token "INTERVAL", m.interval.ifNull (.text ""))]

def statusText : Status → String
  | .up => "✅ Up"
  | .down => "🔴 Down"

/-- The tokens of a heartbeat. Absent fields stay absent, but an absent duration counts as zero. -/
def ofHeartbeat (h : Heartbeat) : Except RenderError Dictionary := do
  let status ← Status.ofValue h.status
  let time ← Heartbeat.shownTime? h.time
  return [(token "STATUS", .text (statusText status)), (token "TIME_UTC", time),
    (token "MSG", h.msg), (token "DOWN_COUNT", h.downCount), (token "PING", h.ping),
    (token "DURATION", h.duration.ifNull (.int 0)), (token "IMPORTANT", h.important)]

/-- The entries of an optional part, none where the part is absent. -/
def ofOption {α : Type} (entries : α → Except RenderError Dictionary) :
    Option α → Except RenderError Dictionary
  | none => .ok []
  | some part => entries part

/-- The dictionary for a monitor and a heartbeat, either of which may be absent. -/
def build (monitor : Option Monitor) (heartbeat : Option Heartbeat) :
    Except RenderError Dictionary := do
  let ofMonitor ← ofOption ofMonitor monitor
  let ofHeartbeat ← ofOption ofHeartbeat heartbeat
  return (defaults.update ofMonitor).update ofHeartbeat

end Dictionary

end UptimeAlert.Template
