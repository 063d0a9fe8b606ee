import UptimeAlert.Proofs.CommandLine.Run
import UptimeAlert.Proofs.Delivery.Rejection

namespace UptimeAlert

open UptimeAlert.Template

namespace CommandLine

/-- A run fails and has called nothing: it ends with the exit code of failures, or by the fault of
an input that is nested too deep, which is told by the same number. -/
structure Report.FailsWithoutCall (report : Report) : Prop where
  ending : report.ending = .ok .failure ∨ ∃ shape, report.ending = .error (.input shape)
  calls : report.calls = []

theorem Report.failsWithoutCall_complained (errors : String) :
    (complained .failure errors).FailsWithoutCall :=
  ⟨.inl rfl, rfl⟩

theorem unloaded_failsWithoutCall (e : InputError) : (unloaded e).FailsWithoutCall := by
  refine ⟨?_, calls_unloaded e⟩
  cases e with
  | nestedTooDeep shape => exact .inr ⟨shape, rfl⟩
  | _ => exact .inl rfl

/-- A run complains of the status of a heartbeat, in its own words or in those of a channel. -/
def Report.BlamesStatus (report : Report) : Prop :=
  ∃ v, report.errors = (invalidInput v).errors ∨
    ∃ kind : ChannelKind,
      report.errors = deliveryComplaint kind.name (RenderError.invalidStatus v).message

theorem Report.blamesStatus_logged {entries : List LogEntry} {report : Report} :
    (Report.logged entries report).BlamesStatus ↔ report.BlamesStatus := by
  rw [BlamesStatus, errors_logged, BlamesStatus]

theorem Report.blamesStatus_above {level : LogLevel} {report : Report} :
    (report.above level).BlamesStatus ↔ report.BlamesStatus := by
  rw [BlamesStatus, errors_above, BlamesStatus]

theorem head?_append {text more : String} {c : Char} (h : text.toList.head? = some c) :
    (text ++ more).toList.head? = some c := by
  rw [String.toList_append, List.head?_append, h, Option.some_or]

theorem head?_invalidInput (v : Value) : (invalidInput v).errors.toList.head? = some 'I' :=
  head?_append (head?_append rfl)

theorem head?_deliveryComplaint {kind : ChannelKind} {reason : String} :
    (deliveryComplaint kind.name reason).toList.head? = kind.name.toList.head? := by
  cases kind <;> exact head?_append (head?_append (head?_append rfl))

theorem reason_eq_of_deliveryComplaint_eq {kind kind' : ChannelKind} {reason reason' : String}
    (h : deliveryComplaint kind.name reason = deliveryComplaint kind'.name reason') :
    reason = reason' := by
  have hhead := congrArg (fun text => text.toList.head?) h
  simp only [head?_deliveryComplaint] at hhead
  have hkind : kind = kind' := by
    cases kind <;> cases kind' <;> first | rfl | exact absurd hhead (by decide)
  subst hkind
  simpa [deliveryComplaint] using h

/-- Complaints of a status begin with one of three letters, and no other complaint of the run itself
begins with them. -/
theorem Report.BlamesStatus.head?_mem {report : Report} (h : report.BlamesStatus) :
    report.errors.toList.head? ∈ [some 'I', some 's', some 'w'] := by
  obtain ⟨v, hv | ⟨kind, hv⟩⟩ := h
  · rw [hv, head?_invalidInput]
    decide
  · rw [hv, head?_deliveryComplaint]
    cases kind <;> decide

theorem Report.not_blamesStatus_of_head? {report : Report} (c : Option Char)
    (h : report.errors.toList.head? = c) (hc : c ∉ [some 'I', some 's', some 'w']) :
    ¬ report.BlamesStatus :=
  fun hblames => hc (h ▸ hblames.head?_mem)

theorem unloaded_not_blamesStatus (e : InputError) : ¬ (unloaded e).BlamesStatus := by
  cases e with
  | nestedTooDeep shape => exact Report.not_blamesStatus_of_head? none rfl (by decide)
  | _ =>
    exact Report.not_blamesStatus_of_head? (some 'C') (head?_append (head?_append rfl)) (by decide)

variable [Platform] {w : Surroundings} {s : Settings} {r : Request} {kind : ChannelKind}
  {n : Notification} {h : Heartbeat} {input : Input} {msg : Option String} {arguments : List String}

/-- What a file holds is within the limit of digits. -/
theorem Input.isWritable_of_loadHeartbeat {files : Files} {path : Option Path}
    (hload : loadHeartbeat files path = .ok (some h)) : h.isWritable = true := by
  cases path with
  | none => cases hload
  | some path =>
    obtain ⟨fields, hfields, hload⟩ := exists_of_bind_eq_ok hload
    obtain ⟨text, -, hfields⟩ := exists_of_bind_eq_ok hfields
    have hread : Json.readUnmarked Platform.nesting text = .ok (.record fields) := by
      split at hfields
      · cases hfields
      · cases hfields
      · cases hfields
        assumption
      · cases hfields
    have hh : Heartbeat.ofFields fields = .ok h := by
      split at hload
      · cases hload
        assumption
      · cases hload
    rw [Json.readUnmarked] at hread
    split at hread
    · cases hread
    · exact Heartbeat.isWritable_of_ofFields
        (Value.isWritable_record_iff.mp (Json.limited_of_read hread).isWritable) hh

variable (w s kind) in
/-- A status that stands for no verdict ends a delivery before its call. -/
theorem deliver_of_not_isVerdict (hh : n.heartbeat = some h) (hs : ¬ h.status.IsVerdict)
    (hwritable : h.status.isWritable = true) :
    (deliver w s kind n).calls = [] ∧
      ∃ result e, (deliver w s kind n).outcome = .ok result ∧ result.error? = some e := by
  cases kind with
  | mail =>
    obtain ⟨hcalls, errorKind, message, houtcome⟩ :=
      Mailer.fails_of_not_isVerdict (m := .ofSettings s.mail s.renderer) w.mail hh hs
    rw [calls_deliver_mail, hcalls]
    exact ⟨rfl, _, _, houtcome, rfl⟩
  | webhook =>
    obtain ⟨hcalls, errorKind, message, houtcome⟩ :=
      Webhook.fails_of_not_isVerdict (w := .ofSettings s.webhook s.renderer) w.webhook hh hs
        hwritable
    rw [calls_deliver_webhook, hcalls]
    exact ⟨rfl, _, _, houtcome, rfl⟩

theorem render_of_not_isVerdict {template : String} (hh : input.heartbeat = some h)
    (hs : ¬ h.status.IsVerdict) (hwritable : h.status.isWritable = true) :
    s.renderer.render template input.monitor input.heartbeat =
      .error (.invalidStatus h.status) :=
  (Renderer.render_of_not_isVerdict hh hs).trans (by rw [Status.refusal_of_isWritable hwritable])

theorem preview_failsWithoutCall (hh : input.heartbeat = some h) (hs : ¬ h.status.IsVerdict)
    (hwritable : h.status.isWritable = true) :
    (preview s input).FailsWithoutCall := by
  cases ht : input.template with
  | none =>
    rw [preview_of_none ht]
    exact Report.failsWithoutCall_complained _
  | some template =>
    rw [preview_of_invalidStatus ht (render_of_not_isVerdict hh hs hwritable)]
    exact ⟨.inl rfl, rfl⟩

theorem conclude_failsWithoutCall {text : String} (hh : input.heartbeat = some h)
    (hs : ¬ h.status.IsVerdict) (hwritable : h.status.isWritable = true) :
    (conclude (deliver w s kind ⟨text, input.monitor, input.heartbeat⟩)).FailsWithoutCall := by
  obtain ⟨hcalls, result, e, houtcome, he⟩ :=
    deliver_of_not_isVerdict w s kind (n := ⟨text, input.monitor, input.heartbeat⟩) hh hs hwritable
  rw [conclude_of_failure houtcome he]
  exact ⟨.inl rfl, hcalls⟩

theorem send_failsWithoutCall (hh : input.heartbeat = some h) (hs : ¬ h.status.IsVerdict)
    (hwritable : h.status.isWritable = true) :
    (send w s kind msg input).FailsWithoutCall := by
  cases msg with
  | some text => exact conclude_failsWithoutCall hh hs hwritable
  | none =>
    cases ht : input.template with
    | none =>
      rw [send_of_nothing ht]
      exact Report.failsWithoutCall_complained _
    | some template =>
      rw [send_of_invalidStatus ht (render_of_not_isVerdict hh hs hwritable)]
      exact ⟨.inl rfl, rfl⟩

/-- Whatever is asked for, a status that stands for no verdict ends it before any call. -/
theorem perform_failsWithoutCall (hcheck : r.checkOnly = false)
    (hheartbeat : Input.loadHeartbeat w.files r.heartbeat = .ok (some h))
    (hs : ¬ h.status.IsVerdict) : (perform w s r).FailsWithoutCall := by
  cases hinput : Input.load w.files r with
  | error e =>
    rw [perform_of_unloaded hcheck hinput]
    exact unloaded_failsWithoutCall e
  | ok input =>
    have hh : input.heartbeat = some h :=
      Except.ok.inj ((Input.load_eq_ok_iff.mp hinput).2.1.symm.trans hheartbeat)
    have hwritable : h.status.isWritable = true :=
      (Heartbeat.isWritable_iff.mp (Input.isWritable_of_loadHeartbeat hheartbeat)).2.1
    rw [perform_of_loaded hcheck hinput]
    cases r.channel with
    | none => exact preview_failsWithoutCall hh hs hwritable
    | some kind => exact send_failsWithoutCall hh hs hwritable

theorem run_failsWithoutCall (hread : Invocation.read arguments = .ok (.run r))
    (hload : Settings.load w.env w.environmentFile = .ok s) (hcheck : r.checkOnly = false)
    (hheartbeat : Input.loadHeartbeat w.files r.heartbeat = .ok (some h))
    (hs : ¬ h.status.IsVerdict) : (run w arguments).FailsWithoutCall := by
  have hfails : (perform w s r).FailsWithoutCall := perform_failsWithoutCall hcheck hheartbeat hs
  rw [run_of_settings hread hload]
  exact ⟨hfails.ending, hfails.calls⟩

/-- A delivery that made no call names another reason than the status. -/
theorem deliver_of_hasVerdict (hn : n.HasVerdict) (hcalls : (deliver w s kind n).calls = [])
    {result : DeliveryResult} (ho : (deliver w s kind n).outcome = .ok result) :
    result.channel = kind.name ∧ ¬ result.BlamesStatus := by
  cases kind with
  | mail =>
    rw [calls_deliver_mail, List.map_eq_nil_iff] at hcalls
    rw [outcome_deliver_mail] at ho
    exact ⟨(Mailer.send_course ho).channel_eq, Mailer.not_blamesStatus_of_hasVerdict hn hcalls ho⟩
  | webhook =>
    rw [calls_deliver_webhook, List.map_eq_nil_iff] at hcalls
    rw [outcome_deliver_webhook] at ho
    exact ⟨(Webhook.send_course ho).channel_eq,
      Webhook.not_blamesStatus_of_hasVerdict hn hcalls ho⟩

theorem conclude_not_blamesStatus (hn : n.HasVerdict)
    (hcalls : (conclude (deliver w s kind n)).calls = []) :
    ¬ (conclude (deliver w s kind n)).BlamesStatus := by
  rw [calls_conclude] at hcalls
  rcases errors_conclude (d := deliver w s kind n) with hempty | ⟨result, e, ho, he, herrors⟩
  · exact Report.not_blamesStatus_of_head? none (congrArg (fun text => text.toList.head?) hempty)
      (by decide)
  · obtain ⟨hchannel, hresult⟩ := deliver_of_hasVerdict hn hcalls ho
    rintro ⟨v, hv | ⟨kind', hv⟩⟩
    · have hhead := congrArg (fun text => text.toList.head?) (herrors.symm.trans hv)
      simp only [hchannel, head?_deliveryComplaint, head?_invalidInput] at hhead
      cases kind <;> exact absurd hhead (by decide)
    · rw [herrors, hchannel] at hv
      exact hresult ⟨e, v, he, reason_eq_of_deliveryComplaint_eq hv⟩

/-- A preview of a status with a verdict may fail, but not for the status. -/
theorem preview_not_blamesStatus (hs : ∀ h ∈ input.heartbeat, h.status.IsVerdict) :
    ¬ (preview s input).BlamesStatus := by
  cases ht : input.template with
  | none =>
    rw [preview_of_none ht]
    exact Report.not_blamesStatus_of_head? (some 'N') rfl (by decide)
  | some template =>
    cases hr : s.renderer.render template input.monitor input.heartbeat with
    | ok text =>
      rw [preview_of_ok ht hr]
      exact Report.not_blamesStatus_of_head? none rfl (by decide)
    | error e =>
      cases e with
      | invalidStatus v => exact absurd hr (Renderer.render_ne_of_isVerdict hs v)
      | fault f =>
        rw [preview_of_fault ht hr]
        exact Report.not_blamesStatus_of_head? none rfl (by decide)

/-- A delivery of a status with a verdict that made no call complains of something else. -/
theorem send_not_blamesStatus (hs : ∀ h ∈ input.heartbeat, h.status.IsVerdict)
    (hcalls : (send w s kind msg input).calls = []) :
    ¬ (send w s kind msg input).BlamesStatus := by
  cases msg with
  | some text =>
    rw [send_of_msg] at hcalls ⊢
    exact conclude_not_blamesStatus hs hcalls
  | none =>
    cases ht : input.template with
    | none =>
      rw [send_of_nothing ht]
      exact Report.not_blamesStatus_of_head? (some 'N') rfl (by decide)
    | some template =>
      cases hr : s.renderer.render template input.monitor input.heartbeat with
      | ok text =>
        rw [send_of_ok ht hr, Report.calls_logged] at hcalls
        rw [send_of_ok ht hr, Report.blamesStatus_logged]
        exact conclude_not_blamesStatus hs hcalls
      | error e =>
        cases e with
        | invalidStatus v => exact absurd hr (Renderer.render_ne_of_isVerdict hs v)
        | fault f =>
          rw [send_of_fault ht hr]
          exact Report.not_blamesStatus_of_head? none rfl (by decide)

/-- Whatever is asked for, a status with a verdict is not what a run without a call complains of. -/
theorem perform_not_blamesStatus (hcheck : r.checkOnly = false)
    (hheartbeat : Input.loadHeartbeat w.files r.heartbeat = .ok (some h))
    (hs : h.status.IsVerdict) (hcalls : (perform w s r).calls = []) :
    ¬ (perform w s r).BlamesStatus := by
  cases hinput : Input.load w.files r with
  | error e =>
    rw [perform_of_unloaded hcheck hinput]
    exact unloaded_not_blamesStatus e
  | ok input =>
    have hverdict : ∀ h ∈ input.heartbeat, h.status.IsVerdict := by
      have hh := (Input.load_eq_ok_iff.mp hinput).2.1.symm.trans hheartbeat
      rw [Except.ok.inj hh]
      rintro _ ⟨⟩
      exact hs
    rw [perform_of_loaded hcheck hinput] at hcalls ⊢
    cases hchannel : r.channel with
    | none => exact preview_not_blamesStatus hverdict
    | some kind =>
      rw [hchannel] at hcalls
      exact send_not_blamesStatus hverdict hcalls

theorem run_not_blamesStatus (hread : Invocation.read arguments = .ok (.run r))
    (hload : Settings.load w.env w.environmentFile = .ok s) (hcheck : r.checkOnly = false)
    (hheartbeat : Input.loadHeartbeat w.files r.heartbeat = .ok (some h))
    (hs : h.status.IsVerdict) (hcalls : (run w arguments).calls = []) :
    ¬ (run w arguments).BlamesStatus := by
  rw [run_of_settings hread hload, Report.calls_above] at hcalls
  rw [run_of_settings hread hload, Report.blamesStatus_above]
  exact perform_not_blamesStatus hcheck hheartbeat hs hcalls

end CommandLine

end UptimeAlert
