import UptimeAlert.Platform.Standard
import UptimeAlert.Proofs.Delivery.Mail
import UptimeAlert.Proofs.Delivery.Webhook
import UptimeAlert.Proofs.Settings.Loading
import UptimeAlert.Proofs.Settings.Redaction
import UptimeAlert.Settings.Channels

namespace UptimeAlert

open UptimeAlert.Text

theorem getD_ne_empty_iff {setting : Option String} :
    setting.getD "" ≠ "" ↔ setting.isSome = true ∧ setting ≠ some "" := by
  cases setting <;> simp

section

variable [Platform]

/-- Whatever is sent and however the server answers, no result blames the configuration. -/
def Mailer.IsSendable (m : Mailer) : Prop :=
  ∀ (server : Mailer.Call → Mailer.Answer) (n : Notification) (result : DeliveryResult),
    (m.send server n).outcome = .ok result → result.kind? ≠ some .configuration

def Webhook.IsSendable (w : Webhook) : Prop :=
  ∀ (server : Webhook.Call → Webhook.Answer) (n : Notification) (result : DeliveryResult),
    (w.send server n).outcome = .ok result → result.kind? ≠ some .configuration

/-- A mailer can be handed a notification exactly when it is configured. -/
theorem Mailer.isSendable_iff {m : Mailer} : m.IsSendable ↔ m.IsConfigured := by
  constructor
  · intro h
    by_contra hm
    have ho : (m.send (fun _ => .accepted) ⟨"", none, none⟩).outcome = .ok (.failure channelName
        .configuration "SMTP host and recipient are required") :=
      congrArg Delivery.outcome (send_of_not_isConfigured hm)
    exact h _ _ _ ho rfl
  · intro hm server n result ho hkind
    exact (send_course ho).agrees.configuration_iff.mp hkind hm

theorem Webhook.isSendable_iff {w : Webhook} : w.IsSendable ↔ w.IsConfigured := by
  constructor
  · intro h
    by_contra hw
    have ho : (w.send (fun _ => .response ⟨200, []⟩) ⟨"", none, none⟩).outcome =
        .ok (.failure channelName .configuration "Webhook URL is required") :=
      congrArg Delivery.outcome (send_of_not_isConfigured hw)
    exact h _ _ _ ho rfl
  · intro hw server n result ho hkind
    exact (send_course ho).agrees.configuration_iff.mp hkind hw

theorem Mailer.isSendable_ofSettings_iff {s : MailSettings} {r : Template.Renderer} :
    (Mailer.ofSettings s r).IsSendable ↔
      s.enabled = true ∧ s.host ≠ some "" ∧ s.recipients ≠ some "" := by
  have hconfigured : (Mailer.ofSettings s r).IsConfigured ↔
      s.host.getD "" ≠ "" ∧ s.recipients.getD "" ≠ "" := Iff.rfl
  rw [isSendable_iff, hconfigured, getD_ne_empty_iff, getD_ne_empty_iff, MailSettings.enabled,
    Bool.and_eq_true, and_and_and_comm]

end

namespace Settings

theorem shown_eq_notSet_iff {setting : Option String} :
    shown setting = notSet ↔ setting = none ∨ setting = some "" ∨ setting = some notSet := by
  cases setting with
  | none => simp [shown]
  | some text =>
    by_cases hempty : text = ""
    · simp [shown, hempty]
    · simp [shown_of_ne hempty, hempty]

/-- The first letter of a web address is shown. -/
theorem head?_redactUrl {url : String} (h : isEndpoint url = true) :
    (redactUrl url.toList).head? = some 'h' := by
  obtain ⟨scheme, rest, hscheme, hurl⟩ := exists_scheme_of_isEndpoint h
  have hplain : ':' ∉ scheme := by rcases hscheme with rfl | rfl <;> decide
  obtain ⟨more, hmore⟩ := prefix_redactUrl hplain rest
  rw [hurl, ← hmore, List.head?_append]
  rcases hscheme with rfl | rfl <;> rfl

theorem shown_url {url : String} (h : isEndpoint url = true) :
    shown (some (String.ofList (redactUrl url.toList))) = String.ofList (redactUrl url.toList) := by
  refine shown_of_ne fun hempty => ?_
  have hhead := head?_redactUrl h
  rw [← String.toList_ofList (l := redactUrl url.toList), hempty] at hhead
  cases hhead

section

variable [Platform] {env : Environment} {file : Option (List UInt8)} {s : Settings}

theorem webhook_enabled_iff_isSendable (h : load env file = .ok s) {r : Template.Renderer} :
    s.webhook.enabled = true ↔ (Webhook.ofSettings s.webhook r).IsSendable := by
  have hconfigured : (Webhook.ofSettings s.webhook r).IsConfigured ↔
      s.webhook.url.getD "" ≠ "" := Iff.rfl
  rw [Webhook.isSendable_iff, hconfigured, getD_ne_empty_iff, WebhookSettings.enabled,
    iff_self_and]
  rintro - hempty
  exact absurd (isEndpoint_of_load h hempty) (by decide)

/-- The summary shows an address exactly when it calls the web hook enabled. -/
theorem summary_url_ne_notSet_iff (h : load env file = .ok s) :
    s.summary.url ≠ notSet ↔ s.summary.webhookEnabled = true := by
  have hsummary : s.summary.url =
      shown (s.webhook.url.map fun url => String.ofList (redactUrl url.toList)) := rfl
  have henabled : s.summary.webhookEnabled = s.webhook.url.isSome := rfl
  rw [hsummary, henabled]
  cases hurl : s.webhook.url with
  | none => simp [shown]
  | some url =>
    have hendpoint := isEndpoint_of_load h hurl
    rw [Option.map_some, shown_url hendpoint]
    refine iff_of_true (fun hnot => ?_) rfl
    have hhead := head?_redactUrl hendpoint
    rw [← String.toList_ofList (l := redactUrl url.toList), hnot] at hhead
    exact absurd hhead (by decide)

/-- What it means that channels are switched on, and what is shown of it. -/
structure EnabledMeans (s : Settings) (r : Template.Renderer) : Prop where
  mail : (Mailer.ofSettings s.mail r).IsSendable ↔
    s.mail.enabled = true ∧ s.mail.host ≠ some "" ∧ s.mail.recipients ≠ some ""
  webhook : (Webhook.ofSettings s.webhook r).IsSendable ↔ s.webhook.enabled = true
  shownMail : s.summary.mailEnabled = true →
    (s.summary.host = notSet ∨ s.summary.recipients = notSet ↔
      ¬ (Mailer.ofSettings s.mail r).IsSendable ∨
        s.mail.host = some notSet ∨ s.mail.recipients = some notSet)
  shownWebhook : s.summary.webhookEnabled = true ↔ s.summary.url ≠ notSet

/-- Settings that are loaded switch a webhook on exactly if it can be sent to. They switch mails on
also if the server or the recipients are an empty text, though nothing can be sent then. -/
theorem enabledMeans_of_load (h : load env file = .ok s) (r : Template.Renderer) :
    s.EnabledMeans r := by
  constructor
  case mail => exact Mailer.isSendable_ofSettings_iff
  case webhook => exact (webhook_enabled_iff_isSendable h).symm
  case shownWebhook => exact (summary_url_ne_notSet_iff h).symm
  case shownMail =>
    intro (henabled : s.mail.enabled = true)
    have hset : s.mail.host ≠ none ∧ s.mail.recipients ≠ none := by
      simpa [Option.isSome_iff_ne_none] using (Bool.and_eq_true _ _).mp henabled
    have hhost : s.summary.host = notSet ↔ s.mail.host = some "" ∨ s.mail.host = some notSet :=
      shown_eq_notSet_iff.trans (or_iff_right hset.1)
    have hrecipients : s.summary.recipients = notSet ↔
        s.mail.recipients = some "" ∨ s.mail.recipients = some notSet :=
      shown_eq_notSet_iff.trans (or_iff_right hset.2)
    have hsendable : ¬ (Mailer.ofSettings s.mail r).IsSendable ↔
        s.mail.host = some "" ∨ s.mail.recipients = some "" := by
      rw [Mailer.isSendable_ofSettings_iff, and_iff_right henabled, not_and_or, not_not, not_not]
    rw [hhost, hrecipients, hsendable]
    exact or_or_or_comm

end

/-- An environment with a server, recipients and an address switches both channels on. -/
theorem enabledMeans_of_load_both :
    let s : Settings := ⟨⟨""⟩, ⟨some "smtp.example.com", 587, false, false, none, none, none,
      some "ops@example.com", none, none, none, none⟩,
      ⟨some "https://hooks.example.com", none, .ofNat 10⟩, .info⟩
    load [("SMTP_HOST", "smtp.example.com"), ("SMTP_TO", "ops@example.com"),
        ("WEBHOOK_URL", "https://hooks.example.com")] none = .ok s ∧
      s.EnabledMeans ⟨""⟩ := by
  intro s
  have hload : load [("SMTP_HOST", "smtp.example.com"), ("SMTP_TO", "ops@example.com"),
      ("WEBHOOK_URL", "https://hooks.example.com")] none = .ok s := by decide +kernel
  exact ⟨hload, enabledMeans_of_load hload ⟨""⟩⟩

/-- An empty server switches mails on. It is shown as not set, and every mail fails for want of
it. -/
theorem mail_enabled_with_empty_host :
    let s : Settings := ⟨⟨""⟩, ⟨some "", 587, false, false, none, none, none,
      some "ops@example.com", none, none, none, none⟩, ⟨none, none, .ofNat 10⟩, .info⟩
    load [("SMTP_HOST", ""), ("SMTP_TO", "ops@example.com")] none = .ok s ∧
      s.mail.enabled = true ∧ ¬ (Mailer.ofSettings s.mail ⟨""⟩).IsSendable ∧
        s.summary.mailEnabled = true ∧ s.summary.host = notSet := by
  intro s
  refine ⟨by decide +kernel, rfl, fun hsendable => ?_, rfl, rfl⟩
  exact hsendable (fun _ => .accepted) ⟨"", none, none⟩ _ rfl rfl

end Settings

end UptimeAlert
