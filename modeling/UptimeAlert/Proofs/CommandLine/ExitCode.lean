import UptimeAlert.Platform.Standard
import UptimeAlert.Proofs.CommandLine.Calls

namespace UptimeAlert.CommandLine

/-- The number that a run exits with, if it ends by itself. -/
def Report.exit? (report : Report) : Option Nat :=
  report.ending.toOption.map ExitCode.number

theorem Report.exit?_eq_some_iff {report : Report} {number : Nat} :
    report.exit? = some number ↔ ∃ code, report.ending = .ok code ∧ code.number = number := by
  unfold exit?
  cases report.ending with
  | error fault => simp [Except.toOption]
  | ok code => simp [Except.toOption]

theorem ExitCode.number_injective : Function.Injective ExitCode.number := by
  intro code other h
  cases code <;> cases other <;> simp [number] at h ⊢

theorem Report.exit?_number_iff {report : Report} {code : ExitCode} :
    report.exit? = some code.number ↔ report.ending = .ok code := by
  rw [exit?_eq_some_iff]
  constructor
  · rintro ⟨other, hending, hnumber⟩
    rw [hending, ExitCode.number_injective hnumber]
  · intro hending
    exact ⟨code, hending, rfl⟩

/-- The one call of a run was taken. -/
def Report.Delivers (report : Report) (w : Surroundings) : Prop :=
  ∃ call, report.calls = [call] ∧ call.IsAccepted w

/-- A run past the configuration ends well exactly if something was done, and by an interruption
exactly if its one call was interrupted. Unless it ends well it prints nothing. -/
structure Report.Closes (report : Report) (w : Surroundings) (done : Prop) : Prop where
  success_iff : report.ending = .ok .success ↔ done
  interrupted_iff :
    report.ending = .ok .interrupted ↔ ∃ call, report.calls = [call] ∧ call.IsInterrupted w
  output_eq : report.ending ≠ .ok .success → report.output = ""
  ending_ne : report.ending ≠ .ok .badConfiguration

variable {w : Surroundings} {s : Settings} {r : Request} {input : Input} {kind : ChannelKind}
  {msg : Option String} {n : Notification} {arguments : List String} {done : Prop}
  {report : Report} {entries : List LogEntry} {level : LogLevel}

namespace Report

theorem not_exists_call (hcalls : report.calls = []) (p : Call → Prop) :
    ¬ ∃ call, report.calls = [call] ∧ p call := by
  rintro ⟨call, hcall, -⟩
  rw [hcalls] at hcall
  cases hcall

theorem Closes.logged (h : report.Closes w done) : (logged entries report).Closes w done :=
  ⟨h.success_iff, h.interrupted_iff, h.output_eq, h.ending_ne⟩

theorem Closes.above (h : report.Closes w done) : (report.above level).Closes w done :=
  ⟨h.success_iff, h.interrupted_iff, h.output_eq, h.ending_ne⟩

/-- A report of a failure before any call closes. -/
theorem closes_of_calls_nil (hcalls : report.calls = []) (houtput : report.output = "")
    (hending : ∀ code, report.ending = .ok code → code = .failure) (hdone : ¬ done) :
    report.Closes w done where
  success_iff := by
    refine iff_of_false (fun h => ?_) hdone
    cases hending _ h
  interrupted_iff := by
    refine iff_of_false (fun h => ?_) (not_exists_call hcalls _)
    cases hending _ h
  output_eq _ := houtput
  ending_ne h := by cases hending _ h

theorem closes_complained (errors : String) (hdone : ¬ done) :
    (complained .failure errors).Closes w done := by
  refine closes_of_calls_nil rfl rfl (fun code h => ?_) hdone
  cases h
  rfl

theorem closes_faulted (fault : Fault) (hdone : ¬ done) : (faulted fault).Closes w done :=
  closes_of_calls_nil rfl rfl nofun hdone

/-- A number other than zero is that of a failure or an interruption, and nothing was printed. -/
theorem number_of_closes (h : report.Closes w done) {number : Nat}
    (hexit : report.exit? = some number) (hnumber : number ≠ 0) :
    (number = 1 ∨ number = 130) ∧ report.output = "" := by
  obtain ⟨code, hending, rfl⟩ := exit?_eq_some_iff.mp hexit
  have houtput (hcode : code ≠ .success) : report.output = "" := by
    refine h.output_eq fun hsuccess => hcode ?_
    cases hending.symm.trans hsuccess
    rfl
  cases code with
  | success => exact absurd rfl hnumber
  | failure => exact ⟨.inl rfl, houtput nofun⟩
  | badConfiguration => exact absurd hending h.ending_ne
  | interrupted => exact ⟨.inr rfl, houtput nofun⟩

end Report

theorem closes_unloaded (e : InputError) (hdone : ¬ done) : (unloaded e).Closes w done := by
  cases e with
  | nestedTooDeep shape => exact Report.closes_faulted _ hdone
  | _ => exact Report.closes_complained _ hdone

/-- A delivery concludes in one of four ways. -/
theorem conclude_cases (d : Delivery Call) :
    (∃ result, d.outcome = .ok result ∧ result.error? = none ∧
        (conclude d).ending = .ok .success) ∨
      (∃ result e, d.outcome = .ok result ∧ result.error? = some e ∧
        (conclude d).ending = .ok .failure ∧ (conclude d).output = "") ∨
      (∃ f, d.outcome = .error (.transport f) ∧ f.cause = .interruption ∧
        (conclude d).ending = .ok .interrupted ∧ (conclude d).output = "") ∨
      ∃ escape, d.outcome = .error escape ∧
        (∀ f, escape = .transport f → f.cause ≠ .interruption) ∧
        (conclude d).ending = .error (.delivery escape) ∧ (conclude d).output = "" := by
  cases ho : d.outcome with
  | ok result =>
    obtain ⟨channel, outcome⟩ := result
    cases outcome with
    | ok message => exact .inl ⟨_, rfl, rfl, by simp only [conclude, ho]⟩
    | error e =>
      have hfailure := conclude_of_failure (e := e) ho rfl
      exact .inr (.inl ⟨_, e, rfl, rfl, by rw [hfailure], by rw [hfailure]⟩)
  | error escape =>
    refine .inr (.inr ?_)
    cases escape with
    | transport f =>
      by_cases hcause : f.cause = .interruption
      · refine .inl ⟨f, rfl, hcause, ?_, ?_⟩ <;> simp only [conclude, ho, if_pos hcause]
      · refine .inr ⟨_, rfl, fun g hg => ?_, ?_, ?_⟩
        · cases hg
          exact hcause
        · simp only [conclude, ho, if_neg hcause]
        · simp only [conclude, ho, if_neg hcause]
    | _ =>
      refine .inr ⟨_, rfl, fun f hf => ?_, ?_, ?_⟩
      · cases hf
      · simp only [conclude, ho]
      · simp only [conclude, ho]

/-- Whatever a delivery ends with, its report closes with the number that tells it. -/
theorem closes_conclude {d : Delivery Call}
    (hdone : (∃ result, d.outcome = .ok result ∧ result.error? = none) ↔ done)
    (hinterrupted : (∃ f, d.outcome = .error (.transport f) ∧ f.cause = .interruption) ↔
      ∃ call, d.calls = [call] ∧ call.IsInterrupted w) :
    (conclude d).Closes w done := by
  have hcalls : (∃ call, (conclude d).calls = [call] ∧ call.IsInterrupted w) ↔
      ∃ f, d.outcome = .error (.transport f) ∧ f.cause = .interruption := by
    rw [calls_conclude, hinterrupted]
  obtain ⟨result, ho, he, hending⟩ | ⟨result, e, ho, he, hending, houtput⟩ |
    ⟨f, ho, hcause, hending, houtput⟩ | ⟨escape, ho, hcause, hending, houtput⟩ := conclude_cases d
  · refine ⟨?_, ?_, fun h => absurd hending h, ?_⟩
    · exact iff_of_true hending (hdone.mp ⟨result, ho, he⟩)
    · simp [hcalls, hending, ho]
    · simp [hending]
  · refine ⟨?_, ?_, fun _ => houtput, ?_⟩
    · simp [← hdone, hending, ho, he]
    · simp [hcalls, hending, ho]
    · simp [hending]
  · refine ⟨?_, ?_, fun _ => houtput, ?_⟩
    · simp [← hdone, hending, ho]
    · exact iff_of_true hending (hcalls.mpr ⟨f, ho, hcause⟩)
    · simp [hending]
  · refine ⟨?_, ?_, fun _ => houtput, ?_⟩
    · simp [← hdone, hending, ho]
    · simpa [hcalls, hending, ho] using hcause
    · simp [hending]

section

variable [Platform]

/-- A run printed the rendered template of a request. -/
def Report.Shows (report : Report) (w : Surroundings) (s : Settings) (r : Request) : Prop :=
  ∃ input template text, Input.load w.files r = .ok input ∧ input.template = some template ∧
    s.renderer.render template input.monitor input.heartbeat = .ok text ∧
    report.output = text ++ "\n"

theorem closes_conclude_deliver :
    (conclude (deliver w s kind n)).Closes w ((conclude (deliver w s kind n)).Delivers w) := by
  rw [Report.Delivers, calls_conclude]
  exact closes_conclude deliver_accepted_iff deliver_interrupted_iff

/-- A delivery from the command line closes: success is one accepted call. -/
theorem closes_send :
    (send w s kind msg input).Closes w ((send w s kind msg input).Delivers w) := by
  cases msg with
  | some text => exact closes_conclude_deliver
  | none =>
    cases ht : input.template with
    | none =>
      rw [send_of_nothing ht]
      exact Report.closes_complained _ (Report.not_exists_call rfl _)
    | some template =>
      cases hr : s.renderer.render template input.monitor input.heartbeat with
      | ok text =>
        rw [send_of_ok ht hr]
        exact closes_conclude_deliver.logged
      | error e =>
        cases e with
        | invalidStatus v =>
          rw [send_of_invalidStatus ht hr]
          exact (Report.closes_complained _ (Report.not_exists_call rfl _)).logged
        | fault f =>
          rw [send_of_fault ht hr]
          exact (Report.closes_faulted _ (Report.not_exists_call rfl _)).logged

/-- A preview closes: success is a text that was printed, without a call. -/
theorem closes_preview (hinput : Input.load w.files r = .ok input) :
    (preview s input).Closes w ((preview s input).Shows w s r) := by
  cases ht : input.template with
  | none =>
    rw [preview_of_none ht]
    refine Report.closes_complained _ ?_
    rintro ⟨other, template, text, hother, htemplate, -⟩
    cases hinput.symm.trans hother
    cases ht.symm.trans htemplate
  | some template =>
    have hnot {e : RenderError}
        (hr : s.renderer.render template input.monitor input.heartbeat = .error e) :
        ¬ (preview s input).Shows w s r := by
      rintro ⟨other, template', text, hother, htemplate, hrender, -⟩
      cases hinput.symm.trans hother
      cases ht.symm.trans htemplate
      cases hr.symm.trans hrender
    cases hr : s.renderer.render template input.monitor input.heartbeat with
    | ok text =>
      rw [preview_of_ok ht hr]
      refine ⟨iff_of_true rfl ⟨input, template, text, hinput, ht, hr, rfl⟩, ?_, ?_, nofun⟩
      · exact iff_of_false nofun nofun
      · exact fun h => absurd rfl h
    | error e =>
      have hshows := hnot hr
      cases e with
      | invalidStatus v =>
        rw [preview_of_invalidStatus ht hr] at hshows ⊢
        exact (Report.closes_complained _ hshows).logged
      | fault f =>
        rw [preview_of_fault ht hr] at hshows ⊢
        exact (Report.closes_faulted _ hshows).logged

theorem closes_perform_of_channel (hcheck : r.checkOnly = false)
    (hchannel : r.channel = some kind) :
    (perform w s r).Closes w ((perform w s r).Delivers w) := by
  cases hinput : Input.load w.files r with
  | error e =>
    rw [perform_of_unloaded hcheck hinput]
    exact closes_unloaded e (Report.not_exists_call (calls_unloaded e) _)
  | ok input =>
    rw [perform_of_loaded hcheck hinput, hchannel]
    exact closes_send

theorem closes_perform_of_no_channel (hcheck : r.checkOnly = false) (hchannel : r.channel = none) :
    (perform w s r).Closes w ((perform w s r).Shows w s r) := by
  cases hinput : Input.load w.files r with
  | error e =>
    rw [perform_of_unloaded hcheck hinput]
    refine closes_unloaded e ?_
    rintro ⟨input, -, -, hother, -⟩
    cases hinput.symm.trans hother
  | ok input =>
    rw [perform_of_loaded hcheck hinput, hchannel]
    exact closes_preview hinput

/-- What the number tells that a run exits with, if it does. Two tells that the settings are
invalid. Zero tells that they are valid and were all that was asked for, that the one call was
taken, or that the rendered template was printed. All else is told by one, with nothing printed; so
is by 130 that the one call was interrupted. Calls are made only with what was checked. -/
structure Report.IsHonest (report : Report) (w : Surroundings) (r : Request) : Prop where
  badConfiguration_iff : report.exit? = some 2 ↔
    ∃ issues, Settings.load w.env w.environmentFile = .error (.invalid issues)
  badConfiguration : report.exit? = some 2 →
    report.output = "" ∧ report.calls = [] ∧ report.log = []
  checkOnly : ∀ s, Settings.load w.env w.environmentFile = .ok s → r.checkOnly = true →
    report.exit? = some 0 ∧ report.calls = []
  delivers_iff : ∀ s kind, Settings.load w.env w.environmentFile = .ok s → r.checkOnly = false →
    r.channel = some kind → (report.exit? = some 0 ↔ report.Delivers w)
  shows_iff : ∀ s, Settings.load w.env w.environmentFile = .ok s → r.checkOnly = false →
    r.channel = none → (report.exit? = some 0 ↔ report.Shows w s r)
  interrupted_iff : report.exit? = some 130 ↔
    ∃ call, report.calls = [call] ∧ call.IsInterrupted w
  otherwise : ∀ number, report.exit? = some number → number ≠ 0 → number ≠ 2 →
    (number = 1 ∨ number = 130) ∧ report.output = ""
  sound : ∀ call ∈ report.calls, call.IsSound

namespace Report

/-- A report that closes is honest when its success means what was asked for. -/
theorem isHonest_of_closes (hload : Settings.load w.env w.environmentFile = .ok s)
    (h : report.Closes w done) (hcheck : r.checkOnly = true → done ∧ report.calls = [])
    (hdelivers : ∀ kind, r.checkOnly = false → r.channel = some kind →
      (done ↔ report.Delivers w))
    (hshows : r.checkOnly = false → r.channel = none → (done ↔ report.Shows w s r))
    (hsound : ∀ call ∈ report.calls, call.IsSound) : report.IsHonest w r := by
  have hsuccess : report.exit? = some ExitCode.success.number ↔ done :=
    exit?_number_iff.trans h.success_iff
  have hbad : report.exit? ≠ some ExitCode.badConfiguration.number := fun hexit =>
    h.ending_ne (exit?_number_iff.mp hexit)
  have hinterrupted : report.exit? = some ExitCode.interrupted.number ↔
      ∃ call, report.calls = [call] ∧ call.IsInterrupted w :=
    exit?_number_iff.trans h.interrupted_iff
  have hsame : ∀ s', Settings.load w.env w.environmentFile = .ok s' → s' = s := by
    intro s' hload'
    cases hload.symm.trans hload'
    rfl
  refine ⟨iff_of_false hbad ?_, fun hexit => absurd hexit hbad, ?_, ?_, ?_, hinterrupted, ?_,
    hsound⟩
  · rintro ⟨issues, hissues⟩
    cases hload.symm.trans hissues
  · intro _ _ hchecked
    exact ⟨hsuccess.mpr (hcheck hchecked).1, (hcheck hchecked).2⟩
  · intro _ kind _ hunchecked hchannel
    exact hsuccess.trans (hdelivers kind hunchecked hchannel)
  · intro s' hload' hunchecked hchannel
    rw [hsame s' hload']
    exact hsuccess.trans (hshows hunchecked hchannel)
  · intro number hexit hnumber _
    exact number_of_closes h hexit hnumber

/-- A run without settings is blank: it ends by itself only if the settings are invalid. -/
theorem isHonest_of_unloaded (hload : ∀ s, Settings.load w.env w.environmentFile ≠ .ok s)
    (hexit : ∀ number, report.exit? = some number → number = 2)
    (hbad : report.exit? = some 2 ↔
      ∃ issues, Settings.load w.env w.environmentFile = .error (.invalid issues))
    (houtput : report.output = "") (hcalls : report.calls = []) (hlog : report.log = []) :
    report.IsHonest w r := by
  refine ⟨hbad, fun _ => ⟨houtput, hcalls, hlog⟩, ?_, ?_, ?_, ?_, ?_, ?_⟩
  · exact fun s hs => absurd hs (hload s)
  · exact fun s _ hs => absurd hs (hload s)
  · exact fun s hs => absurd hs (hload s)
  · refine iff_of_false (fun hinterrupted => ?_) (not_exists_call hcalls _)
    cases hexit _ hinterrupted
  · exact fun number hnumber _ hne => absurd (hexit number hnumber) hne
  · rw [hcalls]
    nofun

end Report

/-- A run with settings that load is honest, in each of the three things it can be asked to do. -/
theorem isHonest_of_settings (hread : Invocation.read arguments = .ok (.run r))
    (hload : Settings.load w.env w.environmentFile = .ok s) :
    (run w arguments).IsHonest w r := by
  have hsound : ∀ call ∈ (run w arguments).calls, call.IsSound := fun _ => isSound_of_mem_calls
  rw [run_of_settings hread hload] at hsound ⊢
  cases hcheck : r.checkOnly with
  | true =>
    have hcloses : (perform w s r).Closes w True := by
      rw [perform_of_checkOnly hcheck]
      exact ⟨iff_of_true rfl trivial, iff_of_false nofun nofun, fun h => absurd rfl h, nofun⟩
    refine Report.isHonest_of_closes hload hcloses.above (fun _ => ⟨trivial, ?_⟩) ?_ ?_ hsound
    · rw [Report.calls_above, perform_of_checkOnly hcheck]
      rfl
    · exact fun _ h => absurd (hcheck.symm.trans h) nofun
    · exact fun h => absurd (hcheck.symm.trans h) nofun
  | false =>
    have hunchecked (h : r.checkOnly = true) : False := absurd (hcheck.symm.trans h) nofun
    cases hchannel : r.channel with
    | some kind =>
      have hcloses := closes_perform_of_channel (w := w) (s := s) hcheck hchannel
      refine Report.isHonest_of_closes hload hcloses.above (fun h => (hunchecked h).elim) ?_ ?_
        hsound
      · exact fun _ _ _ => Iff.rfl
      · exact fun _ h => absurd (hchannel.symm.trans h) nofun
    | none =>
      have hcloses := closes_perform_of_no_channel (w := w) (s := s) hcheck hchannel
      refine Report.isHonest_of_closes hload hcloses.above (fun h => (hunchecked h).elim) ?_ ?_
        hsound
      · exact fun _ _ h => absurd (hchannel.symm.trans h) nofun
      · exact fun _ _ => Iff.rfl

/-- The exit code of a run tells what it did, whatever surrounds it. -/
theorem run_isHonest (hread : Invocation.read arguments = .ok (.run r)) :
    (run w arguments).IsHonest w r := by
  cases hload : Settings.load w.env w.environmentFile with
  | ok s => exact isHonest_of_settings hread hload
  | error e =>
    have hnone : ∀ s, Settings.load w.env w.environmentFile ≠ .ok s := by
      intro s hs
      cases hload.symm.trans hs
    cases e with
    | invalid issues =>
      rw [run_of_issues hread hload]
      refine Report.isHonest_of_unloaded hnone ?_ (iff_of_true rfl ⟨issues, hload⟩) rfl rfl rfl
      rintro number ⟨⟩
      rfl
    | _ =>
      have hvalid :
          ¬ ∃ issues, Settings.load w.env w.environmentFile = .error (.invalid issues) := by
        rintro ⟨issues, hissues⟩
        cases hload.symm.trans hissues
      rw [run_of_fault hread hload nofun]
      exact Report.isHonest_of_unloaded hnone nofun (iff_of_false nofun hvalid) rfl rfl rfl

end

/-- A message that the server takes is a success. -/
theorem run_isHonest_accepted :
    let w : Surroundings := ⟨[("WEBHOOK_URL", "https://hooks.example.com/uptime")],
      fun _ => .error .notFound, none, fun _ => .accepted, fun _ => .response ⟨204, []⟩⟩
    let r : Request := ⟨false, none, none, none, none, some "up", some .webhook⟩
    let arguments := ["--send", "webhook", "--msg", "up"]
    (run w arguments).exit? = some 0 ∧ (run w arguments).IsHonest w r := by
  intro w r arguments
  have hread : Invocation.read arguments = .ok (.run r) := by decide +kernel
  exact ⟨by decide +kernel, run_isHonest hread⟩

/-- A run whose call is interrupted fails with a number of its own. -/
theorem run_interrupted :
    let w : Surroundings := ⟨[("WEBHOOK_URL", "https://hooks.example.com/uptime")],
      fun _ => .error .notFound, none, fun _ => .accepted,
      fun _ => .failure ⟨.interruption, "KeyboardInterrupt", ""⟩⟩
    let s : Settings := ⟨⟨""⟩, ⟨none, 587, false, false, none, none, none, none, none, none, none,
      none⟩, ⟨some "https://hooks.example.com/uptime", none, .ofNat 10⟩, .info⟩
    let r : Request := ⟨false, none, none, none, none, some "up", some .webhook⟩
    let arguments := ["--send", "webhook", "--msg", "up"]
    Invocation.read arguments = .ok (.run r) ∧
      Settings.load w.env w.environmentFile = .ok s ∧ r.checkOnly = false ∧
      (run w arguments).exit? = some 130 ∧ (run w arguments).exit? ≠ some 1 := by
  decide +kernel

end UptimeAlert.CommandLine
