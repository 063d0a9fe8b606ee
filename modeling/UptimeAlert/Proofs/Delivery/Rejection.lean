import UptimeAlert.Proofs.Delivery.Mail
import UptimeAlert.Proofs.Delivery.Webhook

namespace UptimeAlert

theorem RenderError.prefix_message (v : Value) :
    "Invalid heartbeat status: ".toList <+: (invalidStatus v).message.toList :=
  ⟨(String.ofList v.quoted).toList, String.toList_append.symm⟩

theorem RenderError.message_ne_of_not_prefix {v : Value} {text : String}
    (h : "Invalid heartbeat status: ".toList.isPrefixOf text.toList = false) :
    text ≠ (invalidStatus v).message := by
  rintro rfl
  rw [List.isPrefixOf_iff_prefix.mpr (prefix_message v)] at h
  cases h

/-- A result gives the status of a heartbeat as the reason of the failure. -/
def DeliveryResult.BlamesStatus (result : DeliveryResult) : Prop :=
  ∃ e v, result.error? = some e ∧ e.message = (RenderError.invalidStatus v).message

theorem DeliveryResult.not_blamesStatus_failure {channel : String} {kind : ErrorKind}
    {message : String}
    (h : "Invalid heartbeat status: ".toList.isPrefixOf message.toList = false) :
    ¬ (failure channel kind message).BlamesStatus := by
  rintro ⟨e, v, he, hmessage⟩
  cases he
  exact RenderError.message_ne_of_not_prefix h hmessage

namespace Mailer

/-- No complaint of a status is a fault. -/
theorem escape?_refusal (v : Value) : (ComposeError.render (Status.refusal v)).escape? = none := by
  unfold Status.refusal
  split <;> rfl

theorem not_blamesStatus_of_render {f : RenderFault}
    (hescape : (ComposeError.render (.fault f)).escape? = none) :
    ¬ (DeliveryResult.failure channelName .invalidInput
      (ComposeError.render (.fault f)).message).BlamesStatus := by
  cases f with
  | compositeType shape => cases hescape
  | tooManyDigits => exact DeliveryResult.not_blamesStatus_failure (by decide +kernel)

variable [Platform] {m : Mailer} {n : Notification} {h : Heartbeat} {transport : Call → Answer}

variable (transport) in
theorem send_of_not_isVerdict (hm : m.IsConfigured) (hh : n.heartbeat = some h)
    (hs : ¬ h.status.IsVerdict) :
    (m.send transport n).calls = [] ∧
      (m.send transport n).outcome =
        .ok (.failure channelName .invalidInput (Status.refusal h.status).message) := by
  obtain ⟨hcalls, houtcome⟩ := send_of_error transport hm (message_of_obstacle (.status hh hs))
  rw [houtcome, escape?_refusal]
  exact ⟨hcalls, rfl⟩

variable (transport) in
/-- Configured or not, the channel fails and calls nothing. -/
theorem fails_of_not_isVerdict (hh : n.heartbeat = some h) (hs : ¬ h.status.IsVerdict) :
    (m.send transport n).calls = [] ∧
      ∃ kind message, (m.send transport n).outcome = .ok (.failure channelName kind message) := by
  by_cases hm : m.IsConfigured
  · obtain ⟨hcalls, houtcome⟩ := send_of_not_isVerdict transport hm hh hs
    exact ⟨hcalls, _, _, houtcome⟩
  · rw [send_of_not_isConfigured hm]
    exact ⟨rfl, _, _, rfl⟩

theorem message_ne_of_hasVerdict (hn : n.HasVerdict) (v : Value) :
    m.message n ≠ .error (.render (.invalidStatus v)) := by
  intro hmessage
  have hobstacle := message_eq_error_iff.mp hmessage
  generalize he : ComposeError.render (.invalidStatus v) = e at hobstacle
  cases hobstacle with
  | status hh hs => exact hs (hn _ hh)
  | _ => cases he

/-- With a verdict the errors in composing that are results are those of the headers and of numbers
that are too long. -/
theorem not_blamesStatus_of_obstacle {e : ComposeError} (hn : n.HasVerdict) (he : m.Obstacle n e)
    (hescape : e.escape? = none) :
    ¬ (DeliveryResult.failure channelName .invalidInput e.message).BlamesStatus := by
  cases he with
  | status hh hs => exact absurd (hn _ hh) hs
  | header hn' ha =>
    next fault =>
    cases fault with
    | severalLines => exact DeliveryResult.not_blamesStatus_failure rfl
    | address fault =>
      cases fault with
      | lineBreak => exact DeliveryResult.not_blamesStatus_failure rfl
      | _ => cases hescape
  | template hn' ha ht hf => exact not_blamesStatus_of_render hescape
  | time hn' ha hbody hh hf => exact not_blamesStatus_of_render hescape

theorem not_blamesStatus_of_hasVerdict (hn : n.HasVerdict)
    (hcalls : (m.send transport n).calls = []) {result : DeliveryResult}
    (ho : (m.send transport n).outcome = .ok result) : ¬ result.BlamesStatus := by
  by_cases hm : m.IsConfigured
  · cases hmessage : m.message n with
    | error e =>
      rw [(send_of_error transport hm hmessage).2] at ho
      cases hescape : e.escape? with
      | none =>
        rw [hescape] at ho
        cases ho
        exact not_blamesStatus_of_obstacle hn (message_eq_error_iff.mp hmessage) hescape
      | some escape =>
        rw [hescape] at ho
        cases ho
    | ok mail =>
      rw [(send_of_message transport hm hmessage).1] at hcalls
      cases hcalls
  · rw [send_of_not_isConfigured hm] at ho
    cases ho
    exact DeliveryResult.not_blamesStatus_failure rfl

end Mailer

namespace Webhook

variable [Platform] {w : Webhook} {n : Notification} {h : Heartbeat} {transport : Call → Answer}

theorem payload_of_not_isVerdict (hh : n.heartbeat = some h) (hs : ¬ h.status.IsVerdict) :
    w.payload n = .error (Status.refusal h.status) :=
  payload_of_obstacle (.status hh hs)

variable (transport) in
theorem send_of_not_isVerdict (hw : w.IsConfigured) (hh : n.heartbeat = some h)
    (hs : ¬ h.status.IsVerdict) (hwritable : h.status.isWritable = true) :
    (w.send transport n).calls = [] ∧
      (w.send transport n).outcome =
        .ok (.failure channelName .invalidInput (RenderError.invalidStatus h.status).message) :=
  send_of_invalidStatus transport hw
    ((payload_of_not_isVerdict hh hs).trans (by rw [Status.refusal_of_isWritable hwritable]))

variable (transport) in
theorem send_of_not_isWritable (hw : w.IsConfigured) (hh : n.heartbeat = some h)
    (hs : ¬ h.status.IsVerdict) (hlong : ¬ h.status.isWritable = true) :
    (w.send transport n).calls = [] ∧
      (w.send transport n).outcome = .error (.render .tooManyDigits) :=
  send_of_fault transport hw
    ((payload_of_not_isVerdict hh hs).trans (by rw [Status.refusal_of_not hlong]))

variable (transport) in
/-- Configured or not, the channel fails and calls nothing. -/
theorem fails_of_not_isVerdict (hh : n.heartbeat = some h) (hs : ¬ h.status.IsVerdict)
    (hwritable : h.status.isWritable = true) :
    (w.send transport n).calls = [] ∧
      ∃ kind message, (w.send transport n).outcome = .ok (.failure channelName kind message) := by
  by_cases hw : w.IsConfigured
  · obtain ⟨hcalls, houtcome⟩ := send_of_not_isVerdict transport hw hh hs hwritable
    exact ⟨hcalls, _, _, houtcome⟩
  · rw [send_of_not_isConfigured hw]
    exact ⟨rfl, _, _, rfl⟩

theorem payload_ne_of_hasVerdict (hn : n.HasVerdict) (v : Value) :
    w.payload n ≠ .error (.invalidStatus v) := by
  intro hpayload
  have hobstacle := payload_eq_error_iff.mp hpayload
  generalize he : RenderError.invalidStatus v = e at hobstacle
  cases hobstacle with
  | status hh hs => exact hs (hn _ hh)
  | template => cases he

/-- With a verdict, a delivery that has a result and called nothing had no URL to call. -/
theorem not_isConfigured_of_calls (hn : n.HasVerdict) (hcalls : (w.send transport n).calls = [])
    {result : DeliveryResult} (ho : (w.send transport n).outcome = .ok result) :
    ¬ w.IsConfigured := by
  intro hw
  cases hp : w.payload n with
  | error e =>
    cases payload_eq_error_iff.mp hp with
    | status hh hs => exact hs (hn _ hh)
    | template hn' ht hf =>
      rw [(send_of_fault transport hw hp).2] at ho
      cases ho
  | ok json =>
    rw [(send_of_payload transport hw hp).1] at hcalls
    cases hcalls

theorem not_blamesStatus_of_hasVerdict (hn : n.HasVerdict)
    (hcalls : (w.send transport n).calls = []) {result : DeliveryResult}
    (ho : (w.send transport n).outcome = .ok result) : ¬ result.BlamesStatus := by
  rw [send_of_not_isConfigured (not_isConfigured_of_calls hn hcalls ho)] at ho
  cases ho
  exact DeliveryResult.not_blamesStatus_failure rfl

/-- With a verdict, no input of a webhook is invalid. -/
theorem kind?_ne_of_hasVerdict (hn : n.HasVerdict) {result : DeliveryResult}
    (ho : (w.send transport n).outcome = .ok result) : result.kind? ≠ some .invalidInput := by
  intro hkind
  obtain ⟨hw, ⟨-, hcalls⟩ | ⟨call, -, hrefuses⟩⟩ :=
    (send_course ho).agrees.invalidInput_iff.mp hkind
  · exact not_isConfigured_of_calls hn hcalls ho hw
  · exact hrefuses

end Webhook

end UptimeAlert
