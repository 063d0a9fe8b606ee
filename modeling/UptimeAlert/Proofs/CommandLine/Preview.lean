import Mathlib.Control.Monad.Basic
import UptimeAlert.Platform.Standard
import UptimeAlert.Proofs.CommandLine.Run
import UptimeAlert.Proofs.Delivery.Mail
import UptimeAlert.Proofs.Delivery.Webhook

namespace UptimeAlert

open UptimeAlert.Text UptimeAlert.Mail

namespace CommandLine

section

variable [Platform]

/-- A channel of the settings is configured, without templates of its own, and the addresses of a
mail are taken as headers. -/
def IsReady (s : Settings) : ChannelKind → Prop
  | .mail =>
    let m := Mailer.ofSettings s.mail s.renderer
    m.IsConfigured ∧ m.IsPlain ∧ ∃ addresses, m.addressHeaders = .ok addresses
  | .webhook =>
    let hook := Webhook.ofSettings s.webhook s.renderer
    hook.IsConfigured ∧ hook.IsPlain

/-- A call tells a text: as the message of what is posted, or as the subject of a mail, joined to
one line, and as its body, with the time after it if there is a heartbeat. -/
inductive Call.Tells (s : Settings) (input : Input) (text : String) :
    ChannelKind → Call → Prop where
  | webhook :
    Tells s input text .webhook (.webhook ((Webhook.ofSettings s.webhook s.renderer).callOf (.record
      [("heartbeat", Webhook.partValue Heartbeat.toFields input.heartbeat),
        ("monitor", Webhook.partValue Monitor.toFields input.monitor), ("msg", .text text)])))
  | mail {m : Mailer} {subject body : String} {addresses : List (Header × String)}
    (mailer : m = .ofSettings s.mail s.renderer)
    (headers : m.addressHeaders = .ok addresses)
    (builtSubject : m.subject ⟨text, input.monitor, input.heartbeat⟩ = .ok subject)
    (builtBody : m.body ⟨text, input.monitor, input.heartbeat⟩ = .ok body)
    (subject_eq : subject = String.ofList (flatten text.toList))
    (body_of_none : input.heartbeat = none → body = text)
    (body_of_some : ∀ h, input.heartbeat = some h → body = text ++ "\nTime (UTC): " ++
      String.ofList
        (Template.stringify s.template.missing.toList (Heartbeat.shownTime h.time))) :
    Tells s input text .mail
      (.mail (m.call ⟨addresses ++ [subjectHeader subject], contentOf body⟩))

structure Request.Previews (r sending : Request) (kind : ChannelKind) : Prop where
  template : sending.template = r.template
  monitor : sending.monitor = r.monitor
  heartbeat : sending.heartbeat = r.heartbeat
  checkOnly : r.checkOnly = false
  sendingCheckOnly : sending.checkOnly = false
  channel : r.channel = none
  sendingChannel : sending.channel = some kind
  msg : sending.msg = none

/-- What a run previewed is what another one sent: the text that the first one printed was told by
a single call, and where the first one failed, the second one failed likewise. -/
structure Report.Foretells (preview sending : Report) (w : Surroundings) (s : Settings)
    (r : Request) (kind : ChannelKind) : Prop where
  success : preview.ending = .ok .success →
    ∃ text input call, preview.output = text ++ "\n" ∧ Input.load w.files r = .ok input ∧
      sending.calls = [call] ∧ call.Tells s input text kind
  failure : preview.ending = .ok .failure →
    sending.ending = .ok .failure ∧ sending.calls = [] ∧
      (r.template ≠ none ∨ (∃ e, Input.load w.files r = .error e) →
        sending.errors = preview.errors)

variable {w : Surroundings} {s : Settings} {r sending : Request} {input : Input}
  {kind : ChannelKind} {text : String} {arguments sendingArguments : List String}

/-- With settings that are ready, a verdict and a time that can be written, one mail is handed over.
-/
theorem calls_deliver_mail_of_isReady (h : IsReady s .mail)
    (hn : Notification.HasVerdict ⟨text, input.monitor, input.heartbeat⟩)
    (htime : ∀ h ∈ input.heartbeat, h.time.isWritable = true) :
    ∃ call : Call, (deliver w s .mail ⟨text, input.monitor, input.heartbeat⟩).calls = [call] ∧
      call.Tells s input text .mail := by
  obtain ⟨hconfigured, hplain, addresses, ha⟩ := h
  obtain ⟨body, hbody, hnone, hsome⟩ :=
    Mailer.exists_plainBody (m := .ofSettings s.mail s.renderer)
      (n := ⟨text, input.monitor, input.heartbeat⟩) htime
  have hmessage := Mailer.message_of_isPlain hplain hn ha hbody
  have hcalls := (Mailer.send_of_message w.mail hconfigured hmessage).1
  exact ⟨.mail _, by rw [calls_deliver_mail, hcalls]; rfl, .mail rfl ha
    (Mailer.subject_of_isPlain hplain) ((Mailer.body_of_isPlain hplain).trans hbody) rfl hnone
    hsome⟩

theorem calls_deliver_webhook_of_isReady (h : IsReady s .webhook)
    (hn : Notification.HasVerdict ⟨text, input.monitor, input.heartbeat⟩) :
    ∃ call : Call, (deliver w s .webhook ⟨text, input.monitor, input.heartbeat⟩).calls = [call] ∧
      call.Tells s input text .webhook := by
  obtain ⟨hconfigured, hplain⟩ := h
  have hpayload := Webhook.payload_of_isPlain hplain hn
  have hcalls := (Webhook.send_of_payload w.webhook hconfigured hpayload).1
  exact ⟨.webhook _, by rw [calls_deliver_webhook, hcalls]; rfl, .webhook⟩

theorem calls_deliver_of_isReady (h : IsReady s kind)
    (hn : Notification.HasVerdict ⟨text, input.monitor, input.heartbeat⟩)
    (htime : ∀ h ∈ input.heartbeat, h.time.isWritable = true) :
    ∃ call : Call, (deliver w s kind ⟨text, input.monitor, input.heartbeat⟩).calls = [call] ∧
      call.Tells s input text kind := by
  cases kind with
  | mail => exact calls_deliver_mail_of_isReady h hn htime
  | webhook => exact calls_deliver_webhook_of_isReady h hn

/-- The preview and the delivery agree because both render one template with one renderer. -/
theorem preview_foretells (hready : IsReady s kind) (hinput : Input.load w.files r = .ok input) :
    (preview s input).Foretells (send w s kind none input) w s r kind := by
  cases ht : input.template with
  | none =>
    rw [preview_of_none ht, send_of_nothing ht]
    refine ⟨nofun, fun _ => ⟨rfl, rfl, fun hr => ?_⟩⟩
    rcases hr with hr | ⟨e, he⟩
    · exact absurd ht (Input.template_ne_none hinput hr)
    · rw [hinput] at he
      cases he
  | some template =>
    cases hr : s.renderer.render template input.monitor input.heartbeat with
    | ok text =>
      have hn : Notification.HasVerdict ⟨text, input.monitor, input.heartbeat⟩ :=
        Notification.hasVerdict_of_render hr
      -- The text goes to the channel as it is, so it does not matter what it looks like.
      obtain ⟨-, -, -, -, hparts, -⟩ := Template.Renderer.render_eq_ok_iff.mp hr
      obtain ⟨call, hcalls, htells⟩ := calls_deliver_of_isReady (w := w) hready hn hparts.time
      rw [preview_of_ok ht hr, send_of_ok ht hr]
      refine ⟨fun _ => ⟨text, input, call, rfl, hinput, ?_, htells⟩, nofun⟩
      rw [Report.calls_logged, calls_conclude, hcalls]
    | error e =>
      cases e with
      | invalidStatus v =>
        rw [preview_of_invalidStatus ht hr, send_of_invalidStatus ht hr]
        exact ⟨nofun, fun _ => ⟨rfl, rfl, fun _ => rfl⟩⟩
      | fault f =>
        rw [preview_of_fault ht hr, send_of_fault ht hr]
        exact ⟨nofun, nofun⟩

theorem unloaded_foretells (e : InputError) : (unloaded e).Foretells (unloaded e) w s r kind := by
  cases e with
  | nestedTooDeep shape => exact ⟨nofun, nofun⟩
  | _ => exact ⟨nofun, fun _ => ⟨rfl, rfl, fun _ => rfl⟩⟩

theorem Input.load_of_previews {files : Files} (h : r.Previews sending kind) :
    Input.load files sending = Input.load files r := by
  rw [Input.load, h.monitor, h.heartbeat, h.template, Input.load]

/-- Both requests load the same files, so they agree from the template on. -/
theorem perform_foretells (h : r.Previews sending kind) (hready : IsReady s kind) :
    (perform w s r).Foretells (perform w s sending) w s r kind := by
  have hload : Input.load w.files sending = Input.load w.files r := Input.load_of_previews h
  cases hinput : Input.load w.files r with
  | error e =>
    rw [hinput] at hload
    rw [perform_of_unloaded h.checkOnly hinput, perform_of_unloaded h.sendingCheckOnly hload]
    exact unloaded_foretells e
  | ok input =>
    rw [hinput] at hload
    rw [perform_of_loaded h.checkOnly hinput, perform_of_loaded h.sendingCheckOnly hload,
      h.channel, h.sendingChannel, h.msg]
    exact preview_foretells hready hinput

/-- What the command line previews is what it sends. -/
theorem run_foretells (hread : Invocation.read arguments = .ok (.run r))
    (hsending : Invocation.read sendingArguments = .ok (.run sending))
    (h : r.Previews sending kind) (hload : Settings.load w.env w.environmentFile = .ok s)
    (hready : IsReady s kind) :
    (run w arguments).Foretells (run w sendingArguments) w s r kind := by
  have hforetells : (perform w s r).Foretells (perform w s sending) w s r kind :=
    perform_foretells h hready
  rw [run_of_settings hread hload, run_of_settings hsending hload]
  exact ⟨hforetells.success, hforetells.failure⟩

end

/-- A template is previewed and mailed, with the time of a heartbeat after it. -/
theorem run_foretells_mail :
    let w : Surroundings := ⟨[("SMTP_HOST", "smtp.example.com"), ("SMTP_TO", "ops@example.com")],
      fun _ => .ok "\x7b\"status\": 0, \"time\": \"2024-05-01 12:00:00\"\x7d".toUTF8.toList, none,
      fun _ => .accepted, fun _ => .response ⟨200, []⟩⟩
    let s : Settings := ⟨⟨""⟩, ⟨some "smtp.example.com", 587, false, false, none, none, none,
      some "ops@example.com", none, none, none, none⟩, ⟨none, none, .ofNat 10⟩, .info⟩
    let r : Request := ⟨false, none, some (.text "it is \x7b\x7bSTATUS\x7d\x7d"), none,
      some (Path.ofString "heartbeat.json"), none, none⟩
    let arguments := ["--template", "it is \x7b\x7bSTATUS\x7d\x7d", "--heartbeat", "heartbeat.json"]
    (run w arguments).ending = .ok .success ∧
      (run w arguments).Foretells (run w (arguments ++ ["--send", "smtp"])) w s r .mail := by
  intro w s r arguments
  have hread : Invocation.read arguments = .ok (.run r) := by decide +kernel
  have hsending : Invocation.read (arguments ++ ["--send", "smtp"]) =
      .ok (.run { r with channel := some .mail }) := by decide +kernel
  have hload : Settings.load w.env w.environmentFile = .ok s := by decide +kernel
  have haddresses : (Mailer.ofSettings s.mail s.renderer).addressHeaders =
      .ok [(.recipients, "ops@example.com")] := by decide +kernel
  have hconfigured : (Mailer.ofSettings s.mail s.renderer).IsConfigured := ⟨by decide, by decide⟩
  refine ⟨by decide +kernel, ?_⟩
  exact run_foretells hread hsending ⟨rfl, rfl, rfl, rfl, rfl, rfl, rfl, rfl⟩ hload
    ⟨hconfigured, ⟨rfl, rfl⟩, _, haddresses⟩

/-- Recipients without a line break may still tell of one, in an encoded word. A preview prints its
text then, but the mail is refused. -/
theorem mail_refused_after_preview :
    let recipients := "=?utf-8?q?a=0Ab?= <ops@example.com>"
    let w : Surroundings := ⟨[("SMTP_HOST", "smtp.example.com"), ("SMTP_TO", recipients)],
      fun _ => .error .notFound, none, fun _ => .accepted, fun _ => .response ⟨200, []⟩⟩
    let s : Settings := ⟨⟨""⟩, ⟨some "smtp.example.com", 587, false, false, none, none, none,
      some recipients, none, none, none, none⟩, ⟨none, none, .ofNat 10⟩, .info⟩
    let preview := run w ["--template", "up"]
    let sending := run w ["--template", "up", "--send", "smtp"]
    Settings.load w.env w.environmentFile = .ok s ∧
      recipients.toList.any isLineBoundary = false ∧
      preview.ending = .ok .success ∧ preview.output = "up\n" ∧
      sending.ending = .ok .failure ∧ sending.calls.isEmpty = true := by
  decide +kernel

end CommandLine

end UptimeAlert
