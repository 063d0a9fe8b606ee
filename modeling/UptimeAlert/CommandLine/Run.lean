import UptimeAlert.CommandLine.Help
import UptimeAlert.CommandLine.Input
import UptimeAlert.Settings.Channels
import UptimeAlert.Settings.Summary

namespace UptimeAlert.CommandLine

variable [Platform]

/-- How a run may end by itself. -/
inductive ExitCode where
  | success
  | failure
  | badConfiguration
  | interrupted
  deriving DecidableEq, Repr

/-- The number of an exit code; wrong arguments share that of a bad configuration. -/
def ExitCode.number : ExitCode → Nat
  | .success => 0
  | .failure => 1
  | .badConfiguration => 2
  | .interrupted => 130

/-- A fault that no part of a run answers for. -/
inductive Fault where
  | settings (e : Settings.LoadError)
  | input (shape : Composite)
  | delivery (e : Escape)
  deriving DecidableEq, Repr

def Fault.message : Fault → String
  | .settings e => e.message
  | .input shape => Json.tooDeepMessage shape
  | .delivery e => e.message

inductive Call where
  | mail (c : Mailer.Call)
  | webhook (c : Webhook.Call)
  deriving Repr

/-- What surrounds a run: variables, files, the bytes of the environment file, and the transports.
-/
structure Surroundings where
  env : Environment
  files : Files
  environmentFile : Option (List UInt8)
  mail : Mailer.Call → Mailer.Answer
  webhook : Webhook.Call → Webhook.Answer

/-- What a run comes to: its end, what it printed, the calls that it made and what it told the log.
-/
structure Report where
  ending : Except Fault ExitCode
  output : String
  errors : String
  calls : List Call
  log : List LogEntry

namespace Report

def printed (output : String) : Report :=
  ⟨.ok .success, output, "", [], []⟩

def complained (code : ExitCode) (errors : String) : Report :=
  ⟨.ok code, "", errors, [], []⟩

def faulted (fault : Fault) : Report :=
  ⟨.error fault, "", "", [], []⟩

def logged (entries : List LogEntry) (r : Report) : Report :=
  { r with log := entries ++ r.log }

/-- The run with the log as the entries of a level and above. -/
def above (level : LogLevel) (r : Report) : Report :=
  { r with log := LogEntry.above level r.log }

end Report

def usageComplaint (e : UsageError) : String :=
  usage ++ programName ++ ": error: " ++ e.message ++ "\n"

def configurationComplaint (issues : List Issue) : String :=
  ofLines ("Configuration validation failed:" ::
    issues.map fun i => "  " ++ i.place ++ ": " ++ i.complaint.message)

/-- What the check of the configuration prints. -/
def configurationReport (s : Settings) : String :=
  let summary := s.summary
  let enabled (on : Bool) := if on then "enabled" else "disabled"
  let configured (on : Bool) := if on then "configured" else "not configured"
  ofLines [
    "Configuration is valid!",
    "",
    "Configuration:",
    "  Log Level: " ++ summary.logLevel,
    "  Missing Value: " ++ summary.missing,
    "  SMTP: " ++ enabled summary.mailEnabled,
    "  Webhook: " ++ enabled summary.webhookEnabled,
    "",
    "Checking channel availability...",
    "  SMTP: " ++ configured s.mail.enabled,
    "  Webhook: " ++ configured s.webhook.enabled]

def deliver (w : Surroundings) (s : Settings) (kind : ChannelKind) (n : Notification) :
    Delivery Call :=
  match kind with
  | .mail => ((Mailer.ofSettings s.mail s.renderer).send w.mail n).mapCalls .mail
  | .webhook => ((Webhook.ofSettings s.webhook s.renderer).send w.webhook n).mapCalls .webhook

/-- How a run ends after a delivery. -/
def conclude (d : Delivery Call) : Report :=
  match d.outcome with
  | .ok result =>
    match result.outcome with
    | .ok message => ⟨.ok .success, message ++ "\n", "", d.calls, d.log⟩
    | .error e =>
      let complaint := result.channel ++ " delivery failed: " ++ e.message ++ "\n"
      ⟨.ok .failure, "", complaint, d.calls, d.log⟩
  | .error (.transport f) =>
    if f.cause = .interruption then
      ⟨.ok .interrupted, "", "", d.calls, d.log ++ [⟨.info, "Interrupted by user"⟩]⟩
    else ⟨.error (.delivery (.transport f)), "", "", d.calls, d.log⟩
  | .error e => ⟨.error (.delivery e), "", "", d.calls, d.log⟩

def invalidInput (v : Value) : Report :=
  .complained .failure ("Invalid input: " ++ (RenderError.invalidStatus v).message ++ "\n")

def preview (s : Settings) (input : Input) : Report :=
  match input.template with
  | none => .complained .failure "Nothing to render: pass --template or --template-file\n"
  | some template =>
    Report.logged (s.renderer.renderLog template input.monitor input.heartbeat)
      (match s.renderer.render template input.monitor input.heartbeat with
      | .ok text => .printed (text ++ "\n")
      | .error (.invalidStatus v) => invalidInput v
      | .error (.fault f) => .faulted (.delivery (.render f)))

/-- Sends a message through a channel: the one that is given, or the rendered template. -/
def send (w : Surroundings) (s : Settings) (kind : ChannelKind) (msg : Option String)
    (input : Input) : Report :=
  let deliver (text : String) :=
    conclude (deliver w s kind ⟨text, input.monitor, input.heartbeat⟩)
  match msg, input.template with
  | some text, _ => deliver text
  | none, none => .complained .failure "Nothing to send: pass --msg or a template\n"
  | none, some template =>
    let context : Template.Context := ⟨template, input.monitor, input.heartbeat⟩
    Report.logged (s.renderer.tryRenderLog context)
      (match s.renderer.tryRender context with
      | .ok (.ok text) => deliver text
      | .ok (.error v) => invalidInput v
      | .error f => .faulted (.delivery (.render f)))

/-- Does what a request asks for, its settings being valid. -/
def perform (w : Surroundings) (s : Settings) (r : Request) : Report :=
  if r.checkOnly then .printed (configurationReport s)
  else
    match Input.load w.files r with
    | .error (.nestedTooDeep shape) => .faulted (.input shape)
    | .error e => .complained .failure ("Could not load input: " ++ e.message ++ "\n")
    | .ok input =>
      match r.channel with
      | none => preview s input
      | some kind => send w s kind r.msg input

/-- Does what a request asks for. The log is told from the level on that the request or else the
settings name. -/
def answer (w : Surroundings) (r : Request) : Report :=
  match Settings.load w.env w.environmentFile with
  | .error (.invalid issues) => .complained .badConfiguration (configurationComplaint issues)
  | .error e => .faulted (.settings e)
  | .ok s => (perform w s r).above (r.logLevel.getD s.logLevel)

def run (w : Surroundings) (arguments : List String) : Report :=
  match Invocation.read arguments with
  | .error e => .complained .badConfiguration (usageComplaint e)
  | .ok .help => .printed help
  | .ok .version => .printed version
  | .ok (.run r) => answer w r

end UptimeAlert.CommandLine
