import UptimeAlert.Json.Fault
import UptimeAlert.Log
import UptimeAlert.Mail.Address.Fault
import UptimeAlert.Template.Renderer

namespace UptimeAlert

open UptimeAlert.Text

/-- A generic message, with the monitor and the heartbeat that it is about if it tells of a change.
-/
structure Notification where
  msg : String
  monitor : Option Monitor
  heartbeat : Option Heartbeat
  deriving Repr

def Notification.checkStatus (n : Notification) : Except RenderError Unit :=
  match n.heartbeat with
  | some h => (Status.ofValue h.status).map fun _ => ()
  | none => .ok ()

inductive ErrorKind where
  | transport
  | invalidInput
  | configuration
  deriving DecidableEq, Repr

namespace ErrorKind

def all : List ErrorKind := [.transport, .invalidInput, .configuration]

def name : ErrorKind → String
  | .transport => "transport"
  | .invalidInput => "invalid_input"
  | .configuration => "configuration"

def ofName? (name : String) : Option ErrorKind :=
  all.find? fun kind => kind.name == name

def unknownMessage (name : String) : String :=
  String.ofList (quote name.toList) ++ " is not a valid ErrorKind"

end ErrorKind

/-- A failed delivery; `response` is what the remote side answered, if it answered. -/
structure DeliveryError where
  kind : ErrorKind
  message : String
  response : Value
  deriving Repr

/-- The result of sending a notification through a channel: the text of success or an error. -/
structure DeliveryResult where
  channel : String
  outcome : Except DeliveryError String

namespace DeliveryResult

def success (channel : String) : DeliveryResult :=
  ⟨channel, .ok "Sent Successfully."⟩

def failure (channel : String) (kind : ErrorKind) (message : String) : DeliveryResult :=
  ⟨channel, .error ⟨kind, message, .null⟩⟩

end DeliveryResult

/-- What a transport failed of. -/
inductive Cause where
  | mailProtocol
  | system
  | invalidValue
  | webTimeout
  | webRequest
  | interruption
  | other
  deriving DecidableEq, Repr

/-- The failure of a transport, with the name under which it is known and its text. -/
structure TransportFailure where
  cause : Cause
  name : String
  detail : String
  deriving DecidableEq, Repr

/-- A fault that leaves the sending of a notification without a result. -/
inductive Escape where
  | render (fault : RenderFault)
  | address (fault : Mail.AddressFault)
  | transport (failure : TransportFailure)
  | nesting (shape : Composite)
  deriving DecidableEq, Repr

def Escape.message : Escape → String
  | .render fault => fault.message
  | .address fault => fault.message
  | .transport failure => failure.detail
  | .nesting shape => Json.tooDeepMessage shape

/-- What sending a notification comes to: its outcome, the calls that reached the transport in their
order, and what was told to the log. -/
structure Delivery (Call : Type) where
  outcome : Except Escape DeliveryResult
  calls : List Call
  log : List LogEntry

namespace Delivery

def mapCalls {Call Other : Type} (f : Call → Other) (d : Delivery Call) : Delivery Other :=
  ⟨d.outcome, d.calls.map f, d.log⟩

end Delivery

end UptimeAlert
