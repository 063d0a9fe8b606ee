import UptimeAlert.Mail.Channel
import UptimeAlert.Settings.Basic
import UptimeAlert.Webhook.Channel

namespace UptimeAlert

/-- How long a mail server is waited for, in seconds. -/
def Mailer.defaultTimeout : Value := .float (Binary64.ofNat 30)

/-- The mail channel of settings; an empty password counts as none. -/
def Mailer.ofSettings (s : MailSettings) (renderer : Template.Renderer) : Mailer where
  host := s.host.getD ""
  recipients := s.recipients.getD ""
  port := s.port
  secure := s.secure
  ignoreTlsError := s.ignoreTlsError
  username := s.username
  password := s.password.filter fun password => !password.isEmpty
  sender := s.sender
  copies := s.copies
  blindCopies := s.blindCopies
  customSubject := s.customSubject
  customBody := s.customBody
  renderer
  timeout := Mailer.defaultTimeout

def Webhook.ofSettings (s : WebhookSettings) (renderer : Template.Renderer) : Webhook where
  url := s.url.getD ""
  bodyTemplate := s.bodyTemplate
  renderer
  timeout := .float s.timeout

namespace Settings

def renderer (s : Settings) : Template.Renderer := ⟨s.template.missing⟩

end Settings

end UptimeAlert
