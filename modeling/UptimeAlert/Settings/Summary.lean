import UptimeAlert.Settings.Basic
import UptimeAlert.Text.Quoted

namespace UptimeAlert

open UptimeAlert.Text

namespace Settings

/-- What stands for a setting that is not there. -/
def notSet : String := "(not set)"

/-- A setting as it is shown; an empty one counts as not there. -/
def shown (setting : Option String) : String :=
  match setting with
  | none => notSet
  | some s => if s.isEmpty then notSet else s

/-- Hides the password of an address: what stands between the first colon after the scheme and the
first at sign. An address is left alone where the at sign or the colon is missing or misplaced. -/
def redactUrl (url : List Char) : List Char :=
  match cut? ['@'] url, cut? "://".toList url with
  | some (before, after), some (scheme, _) =>
    match cut? [':'] (before.drop (scheme.length + 3)) with
    | some (user, _) => scheme ++ "://".toList ++ user ++ ":***@".toList ++ after
    | none => url
  | _, _ => url

structure Summary where
  host : String
  port : String
  username : String
  password : String
  recipients : String
  url : String
  mailEnabled : Bool
  webhookEnabled : Bool
  missing : String
  logLevel : String
  deriving DecidableEq, Repr

/-- Whether a password is there, and nothing else of it. -/
def shownPassword (password : Option String) : String :=
  if (password.getD "").isEmpty then notSet else "(set)"

def summary (s : Settings) : Summary where
  host := shown s.mail.host
  port := String.ofList (signedDecimal s.mail.port)
  username := shown s.mail.username
  password := shownPassword s.mail.password
  recipients := shown s.mail.recipients
  url := shown (s.webhook.url.map fun url => String.ofList (redactUrl url.toList))
  mailEnabled := s.mail.enabled
  webhookEnabled := s.webhook.enabled
  missing := String.ofList (quote s.template.missing.toList)
  logLevel := s.logLevel.name

end Settings

end UptimeAlert
