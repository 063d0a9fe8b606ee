import UptimeAlert.RenderError

namespace UptimeAlert

structure Monitor where
  id : Value
  name : Value
  type : Value
  url : Value
  hostname : Value
  port : Value
  interval : Value
  deriving Repr

namespace Monitor

/-- The monitor with the given fields; fields of other names are passed over. -/
def ofFields (fields : Fields) : Monitor where
  id := fields.get "id"
  name := fields.get "name"
  type := fields.get "type"
  url := fields.get "url"
  hostname := fields.get "hostname"
  port := fields.get "port"
  interval := fields.get "interval"

def toFields (m : Monitor) : Fields :=
  [("id", m.id), ("name", m.name), ("type", m.type), ("url", m.url), ("hostname", m.hostname),
    ("port", m.port), ("interval", m.interval)]

/-- Whether a monitor checks a URL rather than a host. A composite type cannot be looked up. -/
def checksUrl (m : Monitor) : Except RenderError Bool :=
  match m.type with
  | .text s => .ok (s == "http" || s == "keyword")
  | .list _ => .error (.fault (.compositeType .list))
  | .record _ => .error (.fault (.compositeType .record))
  | _ => .ok false

/-- What a monitor checks: its URL or its host, the empty text where that is not given. -/
def target (m : Monitor) : Except RenderError Value :=
  m.checksUrl.map fun url => (if url then m.url else m.hostname).orElse (.text "")

end Monitor

end UptimeAlert
