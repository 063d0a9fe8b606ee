import UptimeAlert.Platform.Standard
import UptimeAlert.Proofs.Delivery.Mail
import UptimeAlert.Proofs.Delivery.Webhook

namespace UptimeAlert.Delivery

/-- A delivery whose errors are known has a result exactly when none of them occurs. -/
theorem exists_result_iff {Call : Type} {d : Delivery Call} {channel : String}
    {Escapes : Escape → Prop}
    (hchannel : ∀ result, d.outcome = .ok result → result.channel = channel)
    (herror : ∀ escape, d.outcome = .error escape ↔ Escapes escape) :
    (∃ result, d.outcome = .ok result ∧ result.channel = channel) ↔
      ∀ escape, ¬ Escapes escape := by
  constructor
  · rintro ⟨result, hresult, -⟩ escape hescape
    rw [(herror escape).mpr hescape] at hresult
    cases hresult
  · intro hnone
    cases ho : d.outcome with
    | error escape => exact absurd ((herror escape).mp ho) (hnone escape)
    | ok result => exact ⟨result, rfl, hchannel result ho⟩

/-- A delivery has a result of its channel exactly where no fault escapes. -/
theorem send_returns_iff [Platform] (m : Mailer) (mailServer : Mailer.Call → Mailer.Answer)
    (w : Webhook) (webServer : Webhook.Call → Webhook.Answer) (n : Notification) :
    ((∃ result, (m.send mailServer n).outcome = .ok result ∧
        result.channel = Mailer.channelName) ↔ ∀ escape, ¬ m.Escapes mailServer n escape) ∧
      ((∃ result, (w.send webServer n).outcome = .ok result ∧
        result.channel = Webhook.channelName) ↔ ∀ escape, ¬ w.Escapes webServer n escape) := by
  constructor
  · exact exists_result_iff (fun _ ho => (Mailer.send_course ho).channel_eq)
      fun _ => Mailer.outcome_eq_error_iff
  · exact exists_result_iff (fun _ ho => (Webhook.send_course ho).channel_eq)
      fun _ => Webhook.outcome_eq_error_iff

/-- A web address that the transport cannot read leaves a delivery without a result, and so does a
list for the type of the monitor where a template is rendered. -/
theorem send_without_result :
    let unreadable : Webhook.Answer := .failure ⟨.other, "InvalidURL", "bad url"⟩
    let w : Webhook := ⟨"https://hooks.example.com/uptime", none, ⟨""⟩, .null⟩
    let listed := Monitor.ofFields [("type", .list [.text "http"])]
    (∀ result, (w.send (fun _ => unreadable) ⟨"m", none, none⟩).outcome ≠ .ok result) ∧
      ∀ result, ({ w with bodyTemplate := some "down" }.send (fun _ => .response ⟨200, []⟩)
        ⟨"m", some listed, none⟩).outcome ≠ .ok result := by
  refine ⟨fun result h => ?_, fun result h => ?_⟩
  · cases h
  · cases h

/-- The result of a delivery agrees with the calls that were made and with their answers. -/
theorem send_agrees [Platform] :
    (∀ (m : Mailer) (server : Mailer.Call → Mailer.Answer) (n : Notification)
      (result : DeliveryResult), (m.send server n).outcome = .ok result →
        Agrees Mailer.reception server m.IsConfigured (m.Composes n) (m.send server n).calls
          result) ∧
      ∀ (w : Webhook) (server : Webhook.Call → Webhook.Answer) (n : Notification)
        (result : DeliveryResult), (w.send server n).outcome = .ok result →
          Agrees Webhook.reception server w.IsConfigured (w.Composes n) (w.send server n).calls
            result :=
  ⟨fun _ _ _ _ ho => (Mailer.send_course ho).agrees,
    fun _ _ _ _ ho => (Webhook.send_course ho).agrees⟩

/-- Recipients on two lines, and a request that is answered with an error. -/
theorem send_agrees_failed :
    let m : Mailer := ⟨"smtp.example.com", "ops@example.com\nBcc: all@example.com", 587, false,
      false, none, none, none, none, none, none, none, ⟨""⟩, .null⟩
    let w : Webhook := ⟨"https://hooks.example.com/uptime", none, ⟨""⟩, .null⟩
    let n : Notification := ⟨"Testing", none, none⟩
    let missing : Webhook.Answer := .response ⟨404, [110, 111]⟩
    Agrees Mailer.reception (fun _ => .accepted) m.IsConfigured (m.Composes n)
        (m.send (fun _ => .accepted) n).calls
        (.failure "smtp" .invalidInput
          "Header values may not contain linefeed or carriage return characters") ∧
      Agrees Webhook.reception (fun _ => missing) w.IsConfigured (w.Composes n)
        (w.send (fun _ => missing) n).calls
        ⟨"webhook", .error ⟨.transport, "Error: Request failed with status code 404 no",
          .text "no"⟩⟩ :=
  ⟨send_agrees.1 _ _ _ _ rfl, send_agrees.2 _ _ _ _ rfl⟩

end UptimeAlert.Delivery
