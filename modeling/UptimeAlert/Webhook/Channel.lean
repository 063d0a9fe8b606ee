import UptimeAlert.Json.Writer
import UptimeAlert.Notification
import UptimeAlert.Webhook.Response

namespace UptimeAlert

/-- A webhook channel. The template of the body gives the message where it is not blank; the timeout
is handed on as it is. -/
structure Webhook where
  url : String
  bodyTemplate : Option String
  renderer : Template.Renderer
  timeout : Value
  deriving Repr

namespace Webhook

variable [Platform]

structure Call where
  url : String
  timeout : Value
  json : Value
  deriving Repr

inductive Answer where
  | response (r : Response)
  | failure (f : TransportFailure)
  deriving DecidableEq, Repr

def channelName : String := "webhook"

/-- The description of a failed request that had no answer. -/
def failureLead (reason : String) : String :=
  "Error: " ++ reason ++ " "

/-- The payload of an answer as a description shows it, if it can be written: a text as it is, and
nothing of one that does not count as given. -/
def shownPayload? (payload : Value) : Option (List Char) :=
  if payload.isTruthy then
    match payload with
    | .text s => some s.toList
    | other => Json.write? other
  else some []

/-- The description of a failed request with the payload that the server answered, if it can be
written. -/
def failureText? (reason : String) (payload : Value) : Option String :=
  (shownPayload? payload).map fun shown => failureLead reason ++ String.ofList shown

def message (w : Webhook) (n : Notification) : Except RenderError String :=
  match Template.given? w.bodyTemplate with
  | some template => w.renderer.render template n.monitor n.heartbeat
  | none => .ok n.msg

def partValue {α : Type} (toFields : α → Fields) (part : Option α) : Value :=
  match part with
  | some p => .record (toFields p)
  | none => .null

def payload (w : Webhook) (n : Notification) : Except RenderError Value := do
  n.checkStatus
  let msg ← w.message n
  return .record [("heartbeat", partValue Heartbeat.toFields n.heartbeat),
    ("monitor", partValue Monitor.toFields n.monitor), ("msg", .text msg)]

/-- What is told while the payload is made. -/
def payloadLog (w : Webhook) (n : Notification) : List LogEntry :=
  match n.checkStatus, Template.given? w.bodyTemplate with
  | .ok _, some template => w.renderer.renderLog template n.monitor n.heartbeat
  | _, _ => []

def refusalReason (r : Response) : String :=
  "Request failed with status code " ++ toString r.status

/-- The outcome of a request that was refused with a payload. -/
def refused (r : Response) (payload : Value) : Except Escape DeliveryResult :=
  match failureText? (refusalReason r) payload with
  | some text => .ok ⟨channelName, .error ⟨.transport, text, payload⟩⟩
  | none => .error (.render .tooManyDigits)

/-- The outcome of a response, and what is told of it. -/
def ofResponse (r : Response) : Except Escape DeliveryResult × List LogEntry :=
  if r.isSuccess then
    (.ok (.success channelName), [⟨.info, "Webhook notification delivered successfully"⟩])
  else
    match r.payload with
    | .error shape => (.error (.nesting shape), [])
    | .ok payload =>
      (refused r payload, [⟨.error, "Webhook failed: " ++ toString r.status ++ " " ++ r.text⟩])

/-- The outcome of an answer of the transport, and what is told of it. -/
def conclude (answer : Answer) : Except Escape DeliveryResult × List LogEntry :=
  match answer with
  | .response r => ofResponse r
  | .failure f =>
    let failed := DeliveryResult.failure channelName .transport (failureLead f.detail)
    match f.cause with
    | .webTimeout => (.ok failed, [⟨.warning, "Webhook timeout: " ++ f.detail⟩])
    | .webRequest => (.ok failed, [⟨.error, "Webhook error: " ++ f.detail⟩])
    | _ => (.error (.transport f), [])

/-- Sends a notification: nothing is called without a URL or without a payload. -/
def send (w : Webhook) (transport : Call → Answer) (n : Notification) : Delivery Call :=
  if w.url.isEmpty then
    ⟨.ok (.failure channelName .configuration "Webhook URL is required"), [], []⟩
  else
    match w.payload n with
    | .error (.invalidStatus v) =>
      let message := (RenderError.invalidStatus v).message
      ⟨.ok (.failure channelName .invalidInput message), [],
        w.payloadLog n ++ [⟨.error, "Webhook message not rendered: " ++ message⟩]⟩
    | .error (.fault f) => ⟨.error (.render f), [], w.payloadLog n⟩
    | .ok json =>
      let call : Call := ⟨w.url, w.timeout, json⟩
      let (outcome, entries) := conclude (transport call)
      ⟨outcome, [call], w.payloadLog n ++ entries⟩

end Webhook

end UptimeAlert
