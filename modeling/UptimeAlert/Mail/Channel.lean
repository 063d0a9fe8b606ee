import UptimeAlert.Mail.Message
import UptimeAlert.Notification

namespace UptimeAlert

open UptimeAlert.Text

/-- A mail channel; the timeout is handed on as it is. -/
structure Mailer where
  host : String
  recipients : String
  port : Int
  secure : Bool
  ignoreTlsError : Bool
  username : Option String
  password : Option String
  sender : Option String
  copies : Option String
  blindCopies : Option String
  customSubject : Option String
  customBody : Option String
  renderer : Template.Renderer
  timeout : Value
  deriving Repr

namespace Mailer

open UptimeAlert.Mail

variable [Platform]

structure Call where
  message : Message
  host : String
  port : Int
  username : Option String
  password : Option String
  useTls : Bool
  validateCertificates : Bool
  timeout : Value
  deriving Repr

/-- What a transport makes of a mail. -/
inductive Answer where
  | accepted
  | failure (f : TransportFailure)
  deriving DecidableEq, Repr

inductive ComposeError where
  | render (e : RenderError)
  | header (e : HeaderError)
  deriving Repr

def ComposeError.message : ComposeError → String
  | .render e => e.message
  | .header e => e.message

def channelName : String := "smtp"

/-- What the message of a test notification ends with. -/
def testSuffix : List Char := "Testing".toList

/-- Whether the template of the subject applies: only to changes of a verdict and to tests. -/
def usesCustomSubject (n : Notification) : Bool :=
  (n.monitor.isSome && n.heartbeat.isSome) || testSuffix.isSuffixOf n.msg.toList

/-- The template of the subject, where it applies. -/
def subjectTemplate? (m : Mailer) (n : Notification) : Option String :=
  if usesCustomSubject n then Template.given? m.customSubject else none

/-- The subject before its lines are joined. -/
def subjectSource (m : Mailer) (n : Notification) : Except RenderError String :=
  match m.subjectTemplate? n with
  | some template => m.renderer.render template n.monitor n.heartbeat
  | none => .ok n.msg

/-- The subject, on one line. -/
def subject (m : Mailer) (n : Notification) : Except RenderError String :=
  (m.subjectSource n).map fun text => String.ofList (flatten text.toList)

/-- The body that tells the message and, if there is a heartbeat, its time. -/
def plainBody (m : Mailer) (n : Notification) : Except RenderError String :=
  match n.heartbeat with
  | some h => do
    let time ← Heartbeat.shownTime? h.time
    let shown ← Template.stringify? m.renderer.missing.toList time
    return n.msg ++ "\nTime (UTC): " ++ String.ofList shown
  | none => .ok n.msg

def body (m : Mailer) (n : Notification) : Except RenderError String :=
  match Template.given? m.customBody with
  | some template => m.renderer.render template n.monitor n.heartbeat
  | none => m.plainBody n

def addressHeaders (m : Mailer) : Except HeaderError (List (Header × String)) := do
  let sender ← optionalHeader .sender m.sender
  let recipients ← addressHeader .recipients m.recipients
  let copies ← optionalHeader .copies m.copies
  let blindCopies ← optionalHeader .blindCopies m.blindCopies
  return sender ++ recipients :: copies ++ blindCopies

/-- What has to hold before the subject is made: a verdict and readable addresses. -/
def prepared (m : Mailer) (n : Notification) : Except ComposeError (List (Header × String)) :=
  match n.checkStatus with
  | .error e => .error (.render e)
  | .ok _ => m.addressHeaders.mapError .header

def message (m : Mailer) (n : Notification) : Except ComposeError Message := do
  let addresses ← m.prepared n
  let subject ← (m.subject n).mapError .render
  let header ← (setSubject subject).mapError .header
  let body ← (m.body n).mapError .render
  return ⟨addresses ++ [header], contentOf body⟩

/-- What is told when a template that may be absent is rendered. -/
def templateLog (m : Mailer) (template : Option String) (n : Notification) : List LogEntry :=
  match template with
  | some template => m.renderer.renderLog template n.monitor n.heartbeat
  | none => []

/-- What is told while the mail is composed. -/
def messageLog (m : Mailer) (n : Notification) : List LogEntry :=
  match m.prepared n with
  | .error _ => []
  | .ok _ =>
    m.templateLog (m.subjectTemplate? n) n ++
      match m.subject n with
      | .error _ => []
      | .ok _ => m.templateLog (Template.given? m.customBody) n

/-- Whether there is anything to log in with. -/
def hasCredentials (m : Mailer) : Bool :=
  !(m.username.getD "").isEmpty || !(m.password.getD "").isEmpty

/-- A part of the credentials: given together with the other one, or not at all. -/
def credential (m : Mailer) (part : Option String) : Option String :=
  if m.hasCredentials then some (part.getD "") else none

def call (m : Mailer) (message : Message) : Call where
  message
  host := m.host
  port := m.port
  username := m.credential m.username
  password := m.credential m.password
  useTls := m.secure
  validateCertificates := !m.ignoreTlsError
  timeout := m.timeout

/-- The outcome of an answer of the transport, and what is told of it. -/
def conclude (m : Mailer) (answer : Answer) : Except Escape DeliveryResult × List LogEntry :=
  match answer with
  | .accepted =>
    (.ok (.success channelName), [⟨.info, "SMTP notification sent to " ++ m.recipients⟩])
  | .failure f =>
    let failed := DeliveryResult.failure channelName .transport ("Error: " ++ f.detail)
    match f.cause with
    | .mailProtocol => (.ok failed, [⟨.error, "SMTP error: " ++ f.detail⟩])
    | .system => (.ok failed, [⟨.error, "SMTP connection failed: " ++ f.detail⟩])
    | .invalidValue =>
      (.ok (.failure channelName .invalidInput f.detail),
        [⟨.error, "SMTP message rejected: " ++ f.detail⟩])
    | _ => (.error (.transport f), [])

/-- The fault that leaves sending without a result, where an error in composing is one. -/
def ComposeError.escape? : ComposeError → Option Escape
  | .render (.fault (.compositeType shape)) => some (.render (.compositeType shape))
  | .header (.address .lineBreak) => none
  | .header (.address fault) => some (.address fault)
  | _ => none

/-- Sends a notification: nothing is called without a server and recipients, or without a mail. -/
def send (m : Mailer) (transport : Call → Answer) (n : Notification) : Delivery Call :=
  if m.host.isEmpty || m.recipients.isEmpty then
    ⟨.ok (.failure channelName .configuration "SMTP host and recipient are required"), [], []⟩
  else
    match m.message n with
    | .error e =>
      match e.escape? with
      | some escape => ⟨.error escape, [], m.messageLog n⟩
      | none =>
        ⟨.ok (.failure channelName .invalidInput e.message), [],
          m.messageLog n ++ [⟨.error, "SMTP message not built: " ++ e.message⟩]⟩
    | .ok message =>
      let call := m.call message
      let (outcome, entries) := m.conclude (transport call)
      ⟨outcome, [call], m.messageLog n ++ entries⟩

end Mailer

end UptimeAlert
