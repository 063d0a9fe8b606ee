import UptimeAlert.Json.Reader
import UptimeAlert.Platform
import UptimeAlert.Settings.EnvironmentFile
import UptimeAlert.Settings.Field
import UptimeAlert.Text.Utf8

namespace UptimeAlert

structure TemplateSettings where
  missing : String
  deriving DecidableEq, Repr

structure MailSettings where
  host : Option String
  port : Int
  secure : Bool
  ignoreTlsError : Bool
  username : Option String
  password : Option String
  sender : Option String
  recipients : Option String
  copies : Option String
  blindCopies : Option String
  customSubject : Option String
  customBody : Option String
  deriving DecidableEq, Repr

structure WebhookSettings where
  url : Option String
  bodyTemplate : Option String
  timeout : Binary64
  deriving DecidableEq, Repr

structure Settings where
  template : TemplateSettings
  mail : MailSettings
  webhook : WebhookSettings
  logLevel : LogLevel
  deriving DecidableEq, Repr

/-- Whether mails are switched on: a server and recipients are set. -/
def MailSettings.enabled (s : MailSettings) : Bool :=
  s.host.isSome && s.recipients.isSome

/-- Whether the webhook is switched on: its address is set. -/
def WebhookSettings.enabled (s : WebhookSettings) : Bool :=
  s.url.isSome

namespace Settings

open UptimeAlert.Text

variable [Platform]

/-- The numbers that a server may listen on. -/
def isPort (n : Int) : Bool :=
  1 ≤ n && n ≤ 65535

/-- Whether an address begins as one that requests can be sent to. -/
def isEndpoint (url : String) : Bool :=
  "http://".toList.isPrefixOf url.toList || "https://".toList.isPrefixOf url.toList

def readTemplate (s : Source) : Checked TemplateSettings :=
  TemplateSettings.mk <$> s.field "TEMPLATE_MISSING_VALUE" "" readText

def readPort (v : Value) : Except Complaint Int :=
  readWhole v >>= require isPort .portOutOfRange

def readMail (s : Source) : Checked MailSettings :=
  MailSettings.mk <$> s.optional "SMTP_HOST"
    <*> s.field "SMTP_PORT" 587 readPort
    <*> s.field "SMTP_SECURE" false readFlag
    <*> s.field "SMTP_IGNORE_TLS_ERROR" false readFlag
    <*> s.optional "SMTP_USERNAME"
    <*> s.optional "SMTP_PASSWORD"
    <*> s.optional "SMTP_FROM"
    <*> s.optional "SMTP_TO"
    <*> s.optional "SMTP_CC"
    <*> s.optional "SMTP_BCC"
    <*> s.optional "SMTP_CUSTOM_SUBJECT"
    <*> s.optional "SMTP_CUSTOM_BODY"

def readUrl (v : Value) : Except Complaint (Option String) :=
  readOptional v >>= require (fun url => url.all isEndpoint) .endpointExpected

def readTimeout (v : Value) : Except Complaint Binary64 :=
  readNumber v >>= require Binary64.isPositive .notPositive

def readWebhook (s : Source) : Checked WebhookSettings :=
  WebhookSettings.mk <$> s.field "WEBHOOK_URL" none readUrl
    <*> s.optional "WEBHOOK_BODY_TEMPLATE"
    <*> s.field "WEBHOOK_TIMEOUT" (Binary64.ofNat 10) readTimeout

/-- The level of the log, by its name. -/
def readLevel (v : Value) : Except Complaint LogLevel :=
  match v with
  | .text s => (LogLevel.ofName? s).elim (.error .unknownLevel) .ok
  | _ => .error .unknownLevel

def fieldNames : SettingsGroup → List String
  | .template => ["TEMPLATE_MISSING_VALUE"]
  | .mail => ["SMTP_HOST", "SMTP_PORT", "SMTP_SECURE", "SMTP_IGNORE_TLS_ERROR", "SMTP_USERNAME",
      "SMTP_PASSWORD", "SMTP_FROM", "SMTP_TO", "SMTP_CC", "SMTP_BCC", "SMTP_CUSTOM_SUBJECT",
      "SMTP_CUSTOM_BODY"]
  | .webhook => ["WEBHOOK_URL", "WEBHOOK_BODY_TEMPLATE", "WEBHOOK_TIMEOUT"]

/-- Where variables are bound. -/
inductive Origin where
  | environment
  | file
  deriving DecidableEq, Repr

def Origin.title : Origin → String
  | .environment => "EnvSettingsSource"
  | .file => "DotEnvSettingsSource"

inductive LoadError where
  | unreadableFile (fault : Utf8.Fault)
  | unreadableGroup (group : SettingsGroup) (origin : Origin)
  | nestedTooDeep (shape : Composite)
  | invalid (issues : List Issue)
  deriving DecidableEq, Repr

def LoadError.message : LoadError → String
  | .unreadableFile fault => fault.message
  | .unreadableGroup group origin =>
    "error parsing value for field \"" ++ group.name ++ "\" from source \"" ++ origin.title ++ "\""
  | .nestedTooDeep shape => Json.tooDeepMessage shape
  | .invalid issues => "\n".intercalate (issues.map fun i => i.place ++ ": " ++ i.complaint.message)

/-- The name of a field of the group where it is one in some other case. -/
def fieldName (group : SettingsGroup) (name : String) : String :=
  ((fieldNames group).find? fun field => Environment.fold field == Environment.fold name).getD name

/-- A value with the names of the fields of a group. -/
def withFieldNames (group : SettingsGroup) : Value → Value
  | .record fields =>
    .record (fields.foldl (fun r (name, v) => Fields.put r (fieldName group name) v) [])
  | v => v

/-- The group that a variable holds as a whole. -/
def wholeGroup? (vars : Environment) (origin : Origin) (group : SettingsGroup) :
    Except LoadError (Option Value) :=
  match vars.find? group.name with
  | none => .ok none
  | some text =>
    match Json.read Platform.nesting text.toList with
    | .error (.tooDeep shape) => .error (.nestedTooDeep shape)
    | .error _ => .error (.unreadableGroup group origin)
    | .ok .null => .ok none
    | .ok v => .ok (some (withFieldNames group v))

/-- The groups that variables hold as a whole. -/
def wholeGroups (vars : Environment) (origin : Origin) :
    Except LoadError (SettingsGroup → Option Value) := do
  let template ← wholeGroup? vars origin .template
  let mail ← wholeGroup? vars origin .mail
  let webhook ← wholeGroup? vars origin .webhook
  return fun
    | .template => template
    | .mail => mail
    | .webhook => webhook

/-- A group given by both the environment and the file: the fields of the environment come before
those of the file. -/
def merge? : Option Value → Option Value → Option Value
  | some (.record fields), some (.record ofFile) =>
    some (.record (fields.foldl (fun r (name, v) => Fields.put r name v) ofFile))
  | some v, _ => some v
  | none, v => v

/-- The issues of the fields that a group does not know. -/
def unknownFields (group : SettingsGroup) (fields : Fields) : List Issue :=
  (fields.filter fun (name, _) => !(fieldNames group).contains name).map fun (name, _) =>
    ⟨[name], .unknownName⟩

/-- A group: from what was given for the whole of it, or on its own. -/
def loadGroup {α : Type} (group : SettingsGroup) (read : Source → Checked α) (env : Environment)
    (given : Option Value) : Except LoadError (Checked α) :=
  match given with
  | none =>
    match read ⟨[], env⟩ with
    | .valid a => .ok (.valid a)
    | .invalid issues => .error (.invalid issues)
  | some (.record fields) =>
    .ok (((read ⟨fields, env⟩).withIssues (unknownFields group fields)).within group)
  | some _ => .ok (.invalid [⟨[group.name], .groupExpected group⟩])

def fileVariables (env : Environment) (file : Option (List UInt8)) : Except LoadError Environment :=
  match file with
  | none => .ok []
  | some bytes =>
    match Utf8.decode bytes with
    | .error fault => .error (.unreadableFile fault)
    | .ok text => .ok (EnvironmentFile.read env text)

/-- Loads the settings from an environment and the bytes of an environment file, which binds the
level of the log and whole groups where the environment does not. -/
def load (env : Environment) (file : Option (List UInt8)) : Except LoadError Settings := do
  let vars ← fileVariables env file
  let given ← wholeGroups env .environment
  let ofFile ← wholeGroups vars .file
  let group (g : SettingsGroup) := merge? (given g) (ofFile g)
  let template ← loadGroup .template readTemplate env (group .template)
  let mail ← loadGroup .mail readMail env (group .mail)
  let webhook ← loadGroup .webhook readWebhook env (group .webhook)
  let level := Source.field ⟨[], vars ++ env⟩ "LOG_LEVEL" .info readLevel
  match Settings.mk <$> template <*> mail <*> webhook <*> level with
  | .valid settings => .ok settings
  | .invalid issues => .error (.invalid issues)

end Settings

end UptimeAlert
