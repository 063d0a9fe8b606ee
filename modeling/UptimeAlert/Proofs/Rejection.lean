import UptimeAlert.Platform.Standard
import UptimeAlert.Proofs.CommandLine.Rejection
import UptimeAlert.Proofs.Template.Batch

namespace UptimeAlert

open UptimeAlert.Template

namespace Heartbeat

open CommandLine

section

variable [Platform] {h : Heartbeat}

/-- A heartbeat is rejected by every rendering, whatever the type of the monitor, by every mail and
payload, by every channel that is configured, and by every run past the configuration, unless only
the configuration is checked. Nothing is called. -/
structure RejectedEverywhere (h : Heartbeat) : Prop where
  render (r : Renderer) (template : String) (monitor : Option Monitor) :
    r.render template monitor (some h) = .error (.invalidStatus h.status)
  tryRender (r : Renderer) (template : String) (monitor : Option Monitor) :
    r.tryRender ⟨template, monitor, some h⟩ = .ok (.error h.status)
  renderMany (r : Renderer) (template : String) (monitor : Option Monitor)
    (before after : List Context) (hothers : ∀ c ∈ before ++ after, c.HasResult) :
    ∃ results, r.renderMany (before ++ ⟨template, monitor, some h⟩ :: after) = .ok results ∧
      results[before.length]? = some (.error h.status)
  message (m : Mailer) (msg : String) (monitor : Option Monitor) :
    m.message ⟨msg, monitor, some h⟩ = .error (.render (.invalidStatus h.status))
  payload (w : Webhook) (msg : String) (monitor : Option Monitor) :
    w.payload ⟨msg, monitor, some h⟩ = .error (.invalidStatus h.status)
  mail (m : Mailer) (server : Mailer.Call → Mailer.Answer) (msg : String)
    (monitor : Option Monitor) (hhost : m.host ≠ "") (hrecipients : m.recipients ≠ "") :
    (m.send server ⟨msg, monitor, some h⟩).calls = [] ∧
      (m.send server ⟨msg, monitor, some h⟩).outcome =
        .ok (.failure "smtp" .invalidInput
          ("Invalid heartbeat status: " ++ String.ofList h.status.quoted))
  webhook (w : Webhook) (server : Webhook.Call → Webhook.Answer) (msg : String)
    (monitor : Option Monitor) (hurl : w.url ≠ "") :
    (w.send server ⟨msg, monitor, some h⟩).calls = [] ∧
      (w.send server ⟨msg, monitor, some h⟩).outcome =
        .ok (.failure "webhook" .invalidInput
          ("Invalid heartbeat status: " ++ String.ofList h.status.quoted))
  run (w : Surroundings) (arguments : List String) (request : Request) (s : Settings)
    (hread : Invocation.read arguments = .ok (.run request))
    (hload : Settings.load w.env w.environmentFile = .ok s) (hcheck : request.checkOnly = false)
    (hheartbeat : Input.loadHeartbeat w.files request.heartbeat = .ok (some h)) :
    (CommandLine.run w arguments).FailsWithoutCall

/-- A heartbeat is rejected by nothing. A mail server may refuse a mail in the words of a rejection;
that takes a call. -/
structure RejectedNowhere (h : Heartbeat) : Prop where
  render (r : Renderer) (template : String) (monitor : Option Monitor) (v : Value) :
    r.render template monitor (some h) ≠ .error (.invalidStatus v)
  tryRender (r : Renderer) (template : String) (monitor : Option Monitor) (v : Value) :
    r.tryRender ⟨template, monitor, some h⟩ ≠ .ok (.error v)
  renderMany (r : Renderer) (template : String) (monitor : Option Monitor)
    (before after : List Context) (results : List (Except Value String))
    (hresults : r.renderMany (before ++ ⟨template, monitor, some h⟩ :: after) = .ok results)
    (v : Value) : results[before.length]? ≠ some (.error v)
  message (m : Mailer) (msg : String) (monitor : Option Monitor) (v : Value) :
    m.message ⟨msg, monitor, some h⟩ ≠ .error (.render (.invalidStatus v))
  payload (w : Webhook) (msg : String) (monitor : Option Monitor) (v : Value) :
    w.payload ⟨msg, monitor, some h⟩ ≠ .error (.invalidStatus v)
  mail (m : Mailer) (server : Mailer.Call → Mailer.Answer) (msg : String)
    (monitor : Option Monitor) (hcalls : (m.send server ⟨msg, monitor, some h⟩).calls = [])
    (v : Value) :
    (m.send server ⟨msg, monitor, some h⟩).outcome ≠
      .ok (.failure "smtp" .invalidInput ("Invalid heartbeat status: " ++ String.ofList v.quoted))
  webhook (w : Webhook) (server : Webhook.Call → Webhook.Answer) (msg : String)
    (monitor : Option Monitor) (result : DeliveryResult)
    (hresult : (w.send server ⟨msg, monitor, some h⟩).outcome = .ok result) :
    result.kind? ≠ some .invalidInput
  run (w : Surroundings) (arguments : List String) (request : Request) (s : Settings)
    (hread : Invocation.read arguments = .ok (.run request))
    (hload : Settings.load w.env w.environmentFile = .ok s) (hcheck : request.checkOnly = false)
    (hheartbeat : Input.loadHeartbeat w.files request.heartbeat = .ok (some h))
    (hcalls : (CommandLine.run w arguments).calls = []) :
    ¬ (CommandLine.run w arguments).BlamesStatus

/-- A heartbeat with a number beyond the limit for its status: the refusal cannot name it. No file
holds such a heartbeat, and nothing is called. -/
structure FailsOfDigits (h : Heartbeat) : Prop where
  render (r : Renderer) (template : String) (monitor : Option Monitor) :
    r.render template monitor (some h) = .error (.fault .tooManyDigits)
  tryRender (r : Renderer) (template : String) (monitor : Option Monitor) :
    r.tryRender ⟨template, monitor, some h⟩ = .error .tooManyDigits
  renderMany (r : Renderer) (template : String) (monitor : Option Monitor)
    (before after : List Context) (results : List (Except Value String)) :
    r.renderMany (before ++ ⟨template, monitor, some h⟩ :: after) ≠ .ok results
  message (m : Mailer) (msg : String) (monitor : Option Monitor) :
    m.message ⟨msg, monitor, some h⟩ = .error (.render (.fault .tooManyDigits))
  payload (w : Webhook) (msg : String) (monitor : Option Monitor) :
    w.payload ⟨msg, monitor, some h⟩ = .error (.fault .tooManyDigits)
  mail (m : Mailer) (server : Mailer.Call → Mailer.Answer) (msg : String)
    (monitor : Option Monitor) (hhost : m.host ≠ "") (hrecipients : m.recipients ≠ "") :
    (m.send server ⟨msg, monitor, some h⟩).calls = [] ∧
      (m.send server ⟨msg, monitor, some h⟩).outcome =
        .ok (.failure "smtp" .invalidInput (digitLimitMessage none))
  webhook (w : Webhook) (server : Webhook.Call → Webhook.Answer) (msg : String)
    (monitor : Option Monitor) (hurl : w.url ≠ "") :
    (w.send server ⟨msg, monitor, some h⟩).calls = [] ∧
      (w.send server ⟨msg, monitor, some h⟩).outcome = .error (.render .tooManyDigits)
  load (files : Files) (path : Option Path) : Input.loadHeartbeat files path ≠ .ok (some h)

/-- All entry points refuse a status that stands for no verdict and can be written. -/
theorem rejectedEverywhere_of_not_isVerdict (hs : ¬ h.status.IsVerdict)
    (hwritable : h.status.isWritable = true) : h.RejectedEverywhere := by
  have hrefusal : Status.refusal h.status = .invalidStatus h.status :=
    Status.refusal_of_isWritable hwritable
  constructor
  case render =>
    intro r template monitor
    rw [Renderer.render_of_not_isVerdict rfl hs, hrefusal]
  case tryRender =>
    intro r template monitor
    exact Renderer.tryRender_of_not_isVerdict hs hwritable
  case renderMany =>
    intro r template monitor before after hothers
    exact Renderer.renderMany_of_not_isVerdict hs hwritable hothers
  case message =>
    intro m msg monitor
    rw [Mailer.message_of_obstacle (.status rfl hs), hrefusal]
  case payload =>
    intro w msg monitor
    rw [Webhook.payload_of_not_isVerdict rfl hs, hrefusal]
  case mail =>
    intro m server msg monitor hhost hrecipients
    obtain ⟨hcalls, houtcome⟩ := Mailer.send_of_not_isVerdict server
      (n := ⟨msg, monitor, some h⟩) ⟨hhost, hrecipients⟩ rfl hs
    rw [hrefusal] at houtcome
    exact ⟨hcalls, houtcome⟩
  case webhook =>
    intro w server msg monitor hurl
    exact Webhook.send_of_not_isVerdict server hurl rfl hs hwritable
  case run =>
    intro w arguments request s hread hload hcheck hheartbeat
    exact run_failsWithoutCall hread hload hcheck hheartbeat hs

/-- A status with too many digits to be written fails in all of them, without their message. -/
theorem failsOfDigits_of_not_isWritable (hlong : ¬ h.status.isWritable = true) :
    h.FailsOfDigits := by
  have hs : ¬ h.status.IsVerdict := fun hs => hlong hs.isWritable
  have hrefusal : Status.refusal h.status = .fault .tooManyDigits := Status.refusal_of_not hlong
  have hrender (r : Renderer) (template : String) (monitor : Option Monitor) :
      r.render template monitor (some h) = .error (.fault .tooManyDigits) := by
    rw [Renderer.render_of_not_isVerdict rfl hs, hrefusal]
  have htry (r : Renderer) (template : String) (monitor : Option Monitor) :
      r.tryRender ⟨template, monitor, some h⟩ = .error .tooManyDigits := by
    rw [Renderer.tryRender, hrender]
  constructor
  case render => exact hrender
  case tryRender => exact htry
  case renderMany =>
    intro r template monitor before after results hresults
    obtain ⟨result, -, hresult⟩ := Renderer.tryRender_of_getElem? (i := before.length)
      (c := ⟨template, monitor, some h⟩) hresults (by simp)
    rw [htry] at hresult
    cases hresult
  case message =>
    intro m msg monitor
    rw [Mailer.message_of_obstacle (.status rfl hs), hrefusal]
  case payload =>
    intro w msg monitor
    rw [Webhook.payload_of_not_isVerdict rfl hs, hrefusal]
  case mail =>
    intro m server msg monitor hhost hrecipients
    obtain ⟨hcalls, houtcome⟩ := Mailer.send_of_not_isVerdict server
      (n := ⟨msg, monitor, some h⟩) ⟨hhost, hrecipients⟩ rfl hs
    rw [hrefusal] at houtcome
    exact ⟨hcalls, houtcome⟩
  case webhook =>
    intro w server msg monitor hurl
    exact Webhook.send_of_not_isWritable server hurl rfl hs hlong
  case load =>
    intro files path hload
    exact hlong (Heartbeat.isWritable_iff.mp (Input.isWritable_of_loadHeartbeat hload)).2.1

/-- No entry point blames a status that stands for a verdict. -/
theorem rejectedNowhere_of_isVerdict (hs : h.status.IsVerdict) : h.RejectedNowhere := by
  have hverdict (msg : String) (monitor : Option Monitor) :
      Notification.HasVerdict ⟨msg, monitor, some h⟩ := by
    rintro _ ⟨⟩
    exact hs
  constructor
  case render =>
    intro r template monitor v
    exact Renderer.render_ne_of_isVerdict (hverdict "" monitor) v
  case tryRender =>
    intro r template monitor v
    exact Renderer.tryRender_ne_of_isVerdict hs v
  case renderMany =>
    intro r template monitor before after results hresults v
    exact Renderer.renderMany_ne_of_isVerdict hs hresults v
  case message =>
    intro m msg monitor v
    exact Mailer.message_ne_of_hasVerdict (hverdict msg monitor) v
  case payload =>
    intro w msg monitor v
    exact Webhook.payload_ne_of_hasVerdict (hverdict msg monitor) v
  case mail =>
    intro m server msg monitor hcalls v houtcome
    exact Mailer.not_blamesStatus_of_hasVerdict (hverdict msg monitor) hcalls houtcome
      ⟨_, v, rfl, rfl⟩
  case webhook =>
    intro w server msg monitor result hresult
    exact Webhook.kind?_ne_of_hasVerdict (hverdict msg monitor) hresult
  case run =>
    intro w arguments request s hread hload hcheck hheartbeat hcalls
    exact run_not_blamesStatus hread hload hcheck hheartbeat hs hcalls

/-- Whether the status is a verdict decides between being rejected everywhere and nowhere, if the
status can be written. No verdict cannot. -/
theorem rejected_iff (h : Heartbeat) :
    (h.status.isWritable = true →
      (h.RejectedEverywhere ↔ ¬ h.status.IsVerdict) ∧ (h.RejectedNowhere ↔ h.status.IsVerdict)) ∧
      (¬ h.status.isWritable = true → ¬ h.status.IsVerdict ∧ h.FailsOfDigits) := by
  refine ⟨fun hwritable => ⟨⟨fun heverywhere hs => ?_,
    fun hs => rejectedEverywhere_of_not_isVerdict hs hwritable⟩, fun hnowhere => ?_,
    rejectedNowhere_of_isVerdict⟩, fun hlong => ⟨fun hs => hlong hs.isWritable,
    failsOfDigits_of_not_isWritable hlong⟩⟩
  · exact (rejectedNowhere_of_isVerdict hs).render ⟨""⟩ "" none h.status
      (heverywhere.render ⟨""⟩ "" none)
  · by_contra hs
    exact hnowhere.render ⟨""⟩ "" none h.status
      ((rejectedEverywhere_of_not_isVerdict hs hwritable).render ⟨""⟩ "" none)

end

/-- A truth value is no verdict, and a run that previews a template with it in a file fails; the
file holds an object with an absent time and this status. -/
theorem rejected_iff_truth :
    let stored : List UInt8 := [123, 34, 116, 105, 109, 101, 34, 58, 110, 117, 108, 108, 44, 34,
      115, 116, 97, 116, 117, 115, 34, 58, 116, 114, 117, 101, 125]
    let w : Surroundings :=
      ⟨[], fun _ => .ok stored, none, fun _ => .accepted, fun _ => .response ⟨200, []⟩⟩
    let h : Heartbeat := ⟨.null, .bool true, .null, .null, .null, .null, .null⟩
    h.RejectedEverywhere ∧
      (CommandLine.run w
        ["--template", "up", "--heartbeat", "heartbeat.json"]).FailsWithoutCall := by
  intro stored w h
  have hrejected : h.RejectedEverywhere := ((rejected_iff h).1 rfl).1.mpr (by decide)
  exact ⟨hrejected, hrejected.run w _ _ _ rfl rfl rfl rfl⟩

end Heartbeat

end UptimeAlert
