import UptimeAlert.Calendar.Reader
import UptimeAlert.RenderError

namespace UptimeAlert

open UptimeAlert.Text

inductive RequiredField where
  | time
  | status
  deriving DecidableEq, Repr

namespace RequiredField

def name : RequiredField → String
  | .time => "time"
  | .status => "status"

/-- The wording of the complaint that a field is missing. -/
def message (f : RequiredField) : String :=
  String.ofList (quote f.name.toList)

end RequiredField

structure Heartbeat where
  time : Value
  status : Value
  msg : Value
  downCount : Value
  ping : Value
  duration : Value
  important : Value
  deriving Repr

namespace Heartbeat

/-- The heartbeat with the given fields. The count of failures has two names, of which the first one
given counts. -/
def ofFields (fields : Fields) : Except RequiredField Heartbeat :=
  match fields.get? "time", fields.get? "status" with
  | none, _ => .error .time
  | _, none => .error .status
  | some time, some status =>
    .ok {
      time
      status
      msg := fields.get "msg"
      downCount := (fields.get? "downCount").getD (fields.get "down_count")
      ping := fields.get "ping"
      duration := fields.get "duration"
      important := fields.get "important" }

/-- The fields of a heartbeat in stored data: a date-time as its text, a verdict as its number. -/
def toFields (h : Heartbeat) : Fields :=
  let time := match h.time with
    | .moment m => .text (String.ofList m.isoText)
    | other => other
  let status := match h.status with
    | .status s => .int s.code
    | other => other
  [("time", time), ("status", status), ("msg", h.msg), ("downCount", h.downCount), ("ping", h.ping),
    ("duration", h.duration), ("important", h.important)]

/-- The instant of a heartbeat time: a date-time, or a text that reads as one, if the instant lies
in the calendar. -/
def instantOf? : Value → Option Instant
  | .moment m => m.instant?
  | .text s => (Calendar.Reader.read? (strip s.toList)).bind Moment.instant?
  | _ => none

/-- A heartbeat time as templates show it: a text as it is, a date-time in interchange form,
anything else as its text; an absent time stays absent. -/
def shownTime : Value → Value
  | .null => .null
  | .text s => .text s
  | .moment m => .text (String.ofList m.isoText)
  | other => .text (String.ofList other.display)

/-- A heartbeat time as templates show it, if it can be written. -/
def shownTime? (time : Value) : Except RenderError Value :=
  time.ifWritable (shownTime time)

end Heartbeat

end UptimeAlert
