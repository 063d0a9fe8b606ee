import UptimeAlert.CommandLine.Run
import UptimeAlert.Proofs.Delivery.Agreement

namespace UptimeAlert.CommandLine

namespace Report

variable {entries : List LogEntry} {level : LogLevel} {report : Report}

@[simp]
theorem ending_logged : (logged entries report).ending = report.ending := rfl

@[simp]
theorem output_logged : (logged entries report).output = report.output := rfl

@[simp]
theorem errors_logged : (logged entries report).errors = report.errors := rfl

@[simp]
theorem calls_logged : (logged entries report).calls = report.calls := rfl

@[simp]
theorem ending_above : (report.above level).ending = report.ending := rfl

@[simp]
theorem output_above : (report.above level).output = report.output := rfl

@[simp]
theorem errors_above : (report.above level).errors = report.errors := rfl

@[simp]
theorem calls_above : (report.above level).calls = report.calls := rfl

end Report

theorem Input.loadTemplate_ne_none (files : Files) (source : TemplateInput) :
    loadTemplate files (some source) ≠ .ok none := by
  cases source with
  | text template => nofun
  | file path =>
    rw [loadTemplate]
    cases readText files path <;> nofun

variable {d : Delivery Call}

def deliveryComplaint (channel reason : String) : String :=
  channel ++ " delivery failed: " ++ reason ++ "\n"

theorem conclude_of_failure {result : DeliveryResult} {e : DeliveryError}
    (ho : d.outcome = .ok result) (he : result.error? = some e) :
    conclude d =
      ⟨.ok .failure, "", deliveryComplaint result.channel e.message, d.calls, d.log⟩ := by
  obtain ⟨channel, outcome⟩ := result
  cases outcome with
  | ok message => cases he
  | error e' =>
    cases he
    simp only [conclude, ho, deliveryComplaint]

/-- Whatever a delivery comes to, the run reports its calls. -/
theorem calls_conclude : (conclude d).calls = d.calls := by
  unfold conclude
  split
  · split <;> rfl
  · split <;> rfl
  · rfl

/-- A run complains after a delivery only of a result that is a failure. -/
theorem errors_conclude :
    (conclude d).errors = "" ∨
      ∃ result e, d.outcome = .ok result ∧ result.error? = some e ∧
        (conclude d).errors = deliveryComplaint result.channel e.message := by
  cases ho : d.outcome with
  | ok result =>
    cases he : result.error? with
    | some e => exact .inr ⟨result, e, rfl, he, by rw [conclude_of_failure ho he]⟩
    | none =>
      obtain ⟨channel, outcome⟩ := result
      cases outcome with
      | ok message => exact .inl (by simp only [conclude, ho])
      | error e => cases he
  | error escape =>
    refine .inl ?_
    cases escape with
    | transport f =>
      simp only [conclude, ho]
      split <;> rfl
    | _ => simp only [conclude, ho]

/-- What a run comes to that cannot load its inputs. -/
def unloaded : InputError → Report
  | .nestedTooDeep shape => .faulted (.input shape)
  | e => .complained .failure ("Could not load input: " ++ e.message ++ "\n")

theorem calls_unloaded (e : InputError) : (unloaded e).calls = [] := by
  cases e <;> rfl

variable [Platform] {w : Surroundings} {s : Settings} {r : Request} {arguments : List String}
  {input : Input} {kind : ChannelKind} {msg : Option String} {template text : String} {v : Value}
  {f : RenderFault}

theorem run_of_settings (hread : Invocation.read arguments = .ok (.run r))
    (hload : Settings.load w.env w.environmentFile = .ok s) :
    run w arguments = (perform w s r).above (r.logLevel.getD s.logLevel) := by
  rw [run, hread]
  simp only [answer, hload]

theorem run_of_issues (hread : Invocation.read arguments = .ok (.run r)) {issues : List Issue}
    (hload : Settings.load w.env w.environmentFile = .error (.invalid issues)) :
    run w arguments = .complained .badConfiguration (configurationComplaint issues) := by
  rw [run, hread]
  simp only [answer, hload]

theorem run_of_fault (hread : Invocation.read arguments = .ok (.run r)) {e : Settings.LoadError}
    (hload : Settings.load w.env w.environmentFile = .error e)
    (he : ∀ issues, e ≠ .invalid issues) :
    run w arguments = .faulted (.settings e) := by
  rw [run, hread]
  cases e with
  | invalid issues => exact absurd rfl (he issues)
  | _ => simp only [answer, hload]

/-- The files are read one by one, and all of them have to be. -/
theorem Input.load_eq_ok_iff {files : Files} :
    Input.load files r = .ok input ↔
      loadMonitor files r.monitor = .ok input.monitor ∧
        loadHeartbeat files r.heartbeat = .ok input.heartbeat ∧
          loadTemplate files r.template = .ok input.template := by
  obtain ⟨monitor, heartbeat, template⟩ := input
  unfold load
  cases loadMonitor files r.monitor <;> cases loadHeartbeat files r.heartbeat <;>
    cases loadTemplate files r.template <;>
    simp [bind, Except.bind, pure, Except.pure]

theorem Input.template_ne_none {files : Files} (hinput : Input.load files r = .ok input)
    (hr : r.template ≠ none) : input.template ≠ none := by
  intro hnone
  obtain ⟨source, hsource⟩ := Option.ne_none_iff_exists'.mp hr
  have htemplate := (Input.load_eq_ok_iff.mp hinput).2.2
  rw [hsource, hnone] at htemplate
  exact loadTemplate_ne_none files source htemplate

theorem perform_of_checkOnly (hcheck : r.checkOnly = true) :
    perform w s r = .printed (configurationReport s) := by
  rw [perform, if_pos hcheck]

theorem perform_of_unloaded (hcheck : r.checkOnly = false) {e : InputError}
    (hinput : Input.load w.files r = .error e) : perform w s r = unloaded e := by
  simp only [perform, hcheck, hinput, Bool.false_eq_true, if_false]
  cases e <;> rfl

theorem perform_of_loaded (hcheck : r.checkOnly = false)
    (hinput : Input.load w.files r = .ok input) :
    perform w s r = r.channel.elim (preview s input) fun kind => send w s kind r.msg input := by
  simp only [perform, hcheck, hinput, Bool.false_eq_true, if_false]
  cases r.channel <;> rfl

theorem preview_of_none (ht : input.template = none) :
    preview s input =
      .complained .failure "Nothing to render: pass --template or --template-file\n" := by
  rw [preview, ht]

theorem preview_of_ok (ht : input.template = some template)
    (hr : s.renderer.render template input.monitor input.heartbeat = .ok text) :
    preview s input =
      .logged (s.renderer.renderLog template input.monitor input.heartbeat)
        (.printed (text ++ "\n")) := by
  simp only [preview, ht, hr]

theorem preview_of_invalidStatus (ht : input.template = some template)
    (hr : s.renderer.render template input.monitor input.heartbeat = .error (.invalidStatus v)) :
    preview s input =
      .logged (s.renderer.renderLog template input.monitor input.heartbeat) (invalidInput v) := by
  simp only [preview, ht, hr]

theorem preview_of_fault (ht : input.template = some template)
    (hr : s.renderer.render template input.monitor input.heartbeat = .error (.fault f)) :
    preview s input =
      .logged (s.renderer.renderLog template input.monitor input.heartbeat)
        (.faulted (.delivery (.render f))) := by
  simp only [preview, ht, hr]

theorem send_of_msg :
    send w s kind (some text) input =
      conclude (deliver w s kind ⟨text, input.monitor, input.heartbeat⟩) := rfl

theorem send_of_nothing (ht : input.template = none) :
    send w s kind none input =
      .complained .failure "Nothing to send: pass --msg or a template\n" := by
  simp only [send, ht]

theorem send_of_ok (ht : input.template = some template)
    (hr : s.renderer.render template input.monitor input.heartbeat = .ok text) :
    send w s kind none input =
      .logged (s.renderer.tryRenderLog ⟨template, input.monitor, input.heartbeat⟩)
        (conclude (deliver w s kind ⟨text, input.monitor, input.heartbeat⟩)) := by
  simp only [send, ht, Template.Renderer.tryRender, hr]

theorem send_of_invalidStatus (ht : input.template = some template)
    (hr : s.renderer.render template input.monitor input.heartbeat = .error (.invalidStatus v)) :
    send w s kind none input =
      .logged (s.renderer.tryRenderLog ⟨template, input.monitor, input.heartbeat⟩)
        (invalidInput v) := by
  simp only [send, ht, Template.Renderer.tryRender, hr]

theorem send_of_fault (ht : input.template = some template)
    (hr : s.renderer.render template input.monitor input.heartbeat = .error (.fault f)) :
    send w s kind none input =
      .logged (s.renderer.tryRenderLog ⟨template, input.monitor, input.heartbeat⟩)
        (.faulted (.delivery (.render f))) := by
  simp only [send, ht, Template.Renderer.tryRender, hr]

theorem outcome_deliver_mail {n : Notification} :
    (deliver w s .mail n).outcome =
      ((Mailer.ofSettings s.mail s.renderer).send w.mail n).outcome := rfl

theorem outcome_deliver_webhook {n : Notification} :
    (deliver w s .webhook n).outcome =
      ((Webhook.ofSettings s.webhook s.renderer).send w.webhook n).outcome := rfl

theorem calls_deliver_mail {n : Notification} :
    (deliver w s .mail n).calls =
      ((Mailer.ofSettings s.mail s.renderer).send w.mail n).calls.map .mail := rfl

theorem calls_deliver_webhook {n : Notification} :
    (deliver w s .webhook n).calls =
      ((Webhook.ofSettings s.webhook s.renderer).send w.webhook n).calls.map .webhook := rfl

end UptimeAlert.CommandLine
