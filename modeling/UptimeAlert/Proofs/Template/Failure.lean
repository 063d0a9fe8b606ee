import UptimeAlert.Proofs.Status
import UptimeAlert.Proofs.Template.Injection

namespace UptimeAlert

/-- The shape of a value that cannot be looked up. -/
def Value.composite? : Value → Option Composite
  | .list _ => some .list
  | .record _ => some .record
  | _ => none

theorem Value.composite?_eq_none_iff {v : Value} : v.composite? = none ↔ v.isSimple = true := by
  cases v <;> simp [composite?, isSimple]

def Heartbeat.statusError? (h : Heartbeat) : Option RenderError :=
  if h.status.IsVerdict then none else some (Status.refusal h.status)

def Heartbeat.timeFault? (h : Heartbeat) : Option RenderFault :=
  if h.time.isWritable then none else some .tooManyDigits

def Monitor.typeFault? (m : Monitor) : Option RenderFault :=
  m.type.composite?.map .compositeType

theorem Heartbeat.statusError?_eq_none_iff {h : Heartbeat} :
    h.statusError? = none ↔ h.status.IsVerdict := by
  unfold statusError?
  split <;> simp_all

theorem Heartbeat.statusError?_eq_some_iff {h : Heartbeat} {e : RenderError} :
    h.statusError? = some e ↔ ¬ h.status.IsVerdict ∧ Status.refusal h.status = e := by
  unfold statusError?
  split <;> simp_all

theorem Heartbeat.timeFault?_eq_none_iff {h : Heartbeat} :
    h.timeFault? = none ↔ h.time.isWritable = true := by
  unfold timeFault?
  split <;> simp_all

theorem Heartbeat.timeFault?_eq_some_iff {h : Heartbeat} {f : RenderFault} :
    h.timeFault? = some f ↔ ¬ h.time.isWritable = true ∧ .tooManyDigits = f := by
  unfold timeFault?
  split <;> simp_all

theorem Monitor.typeFault?_eq_none_iff {m : Monitor} :
    m.typeFault? = none ↔ m.type.isSimple = true := by
  rw [typeFault?, Option.map_eq_none_iff, Value.composite?_eq_none_iff]

namespace Status

variable {v v' : Value}

theorem refusal_eq_invalidStatus_iff :
    refusal v = .invalidStatus v' ↔ v.isWritable = true ∧ v = v' := by
  unfold refusal
  split <;> simp_all

theorem refusal_eq_fault_iff {f : RenderFault} :
    refusal v = .fault f ↔ ¬ v.isWritable = true ∧ .tooManyDigits = f := by
  unfold refusal
  split <;> simp_all

end Status

namespace Template

variable {monitor : Option Monitor} {heartbeat : Option Heartbeat}

def valuesFault? (monitor : Option Monitor) (heartbeat : Option Heartbeat) : Option RenderFault :=
  if PartsWritable monitor heartbeat then none else some .tooManyDigits

/-- The fault of a rendering against a monitor and a heartbeat with a verdict: the time is looked at
first, then the type, then all that is put. -/
def fault? (monitor : Option Monitor) (heartbeat : Option Heartbeat) : Option RenderFault :=
  ((heartbeat.bind Heartbeat.timeFault?).or (monitor.bind Monitor.typeFault?)).or
    (valuesFault? monitor heartbeat)

/-- Why a template is not rendered against a monitor and a heartbeat; the status is looked at first.
-/
def failure? (monitor : Option Monitor) (heartbeat : Option Heartbeat) : Option RenderError :=
  (heartbeat.bind Heartbeat.statusError?).or ((fault? monitor heartbeat).map .fault)

theorem bind_statusError?_eq_none_iff : heartbeat.bind Heartbeat.statusError? = none ↔
    ∀ h ∈ heartbeat, h.status.IsVerdict :=
  Option.bind_eq_none_iff.trans (forall₂_congr fun _ _ => Heartbeat.statusError?_eq_none_iff)

theorem bind_timeFault?_eq_none_iff : heartbeat.bind Heartbeat.timeFault? = none ↔
    ∀ h ∈ heartbeat, h.time.isWritable = true :=
  Option.bind_eq_none_iff.trans (forall₂_congr fun _ _ => Heartbeat.timeFault?_eq_none_iff)

theorem bind_typeFault?_eq_none_iff : monitor.bind Monitor.typeFault? = none ↔
    ∀ m ∈ monitor, m.type.isSimple = true :=
  Option.bind_eq_none_iff.trans (forall₂_congr fun _ _ => Monitor.typeFault?_eq_none_iff)

theorem valuesFault?_eq_none_iff :
    valuesFault? monitor heartbeat = none ↔ PartsWritable monitor heartbeat := by
  unfold valuesFault?
  split <;> simp_all

theorem PartsWritable.time (h : PartsWritable monitor heartbeat) :
    ∀ hb ∈ heartbeat, hb.time.isWritable = true :=
  fun hb hhb => (Heartbeat.isWritable_iff.mp (h.2 hb hhb)).1

theorem PartsWritable.status (h : PartsWritable monitor heartbeat) :
    ∀ hb ∈ heartbeat, hb.status.isWritable = true :=
  fun hb hhb => (Heartbeat.isWritable_iff.mp (h.2 hb hhb)).2.1

theorem fault?_eq_none_iff : fault? monitor heartbeat = none ↔
    (∀ m ∈ monitor, m.type.isSimple = true) ∧ PartsWritable monitor heartbeat := by
  rw [fault?, Option.or_eq_none_iff, Option.or_eq_none_iff, bind_timeFault?_eq_none_iff,
    bind_typeFault?_eq_none_iff, valuesFault?_eq_none_iff]
  constructor
  · rintro ⟨⟨-, hsimple⟩, hparts⟩
    exact ⟨hsimple, hparts⟩
  · rintro ⟨hsimple, hparts⟩
    exact ⟨⟨hparts.time, hsimple⟩, hparts⟩

theorem failure?_eq_none_iff : failure? monitor heartbeat = none ↔
    (∀ h ∈ heartbeat, h.status.IsVerdict) ∧ (∀ m ∈ monitor, m.type.isSimple = true) ∧
      PartsWritable monitor heartbeat := by
  rw [failure?, Option.or_eq_none_iff, bind_statusError?_eq_none_iff, Option.map_eq_none_iff,
    fault?_eq_none_iff]

theorem failure?_eq_invalidStatus_iff {v : Value} :
    failure? monitor heartbeat = some (.invalidStatus v) ↔
      ∃ h ∈ heartbeat, ¬ h.status.IsVerdict ∧ h.status.isWritable = true ∧ h.status = v := by
  simp [failure?, Option.or_eq_some_iff, Option.bind_eq_some_iff,
    Heartbeat.statusError?_eq_some_iff, Status.refusal_eq_invalidStatus_iff]

theorem failure?_eq_fault_iff {f : RenderFault} :
    failure? monitor heartbeat = some (.fault f) ↔
      (∃ h ∈ heartbeat, ¬ h.status.IsVerdict ∧ ¬ h.status.isWritable = true ∧
        .tooManyDigits = f) ∨
      (∀ h ∈ heartbeat, h.status.IsVerdict) ∧ fault? monitor heartbeat = some f := by
  simp [failure?, Option.or_eq_some_iff, Option.bind_eq_some_iff, Option.bind_eq_none_iff,
    Heartbeat.statusError?_eq_some_iff, Heartbeat.statusError?_eq_none_iff,
    Status.refusal_eq_fault_iff]

theorem ofValue_eq_error {h : Heartbeat} {e : RenderError} (he : h.statusError? = some e) :
    Status.ofValue h.status = .error e := by
  obtain ⟨hs, rfl⟩ := Heartbeat.statusError?_eq_some_iff.mp he
  rw [Value.isVerdict_iff, Option.not_isSome_iff_eq_none] at hs
  exact Status.ofValue_eq_error_iff.mpr ⟨hs, rfl⟩

theorem ofMonitor_eq_error {m : Monitor} {f : RenderFault} (hf : m.typeFault? = some f) :
    Dictionary.ofMonitor m = .error (.fault f) := by
  unfold Monitor.typeFault? Value.composite? at hf
  rw [Dictionary.ofMonitor, Monitor.target, Monitor.checksUrl]
  cases ht : m.type with
  | list items => simpa [ht, Except.map] using hf
  | record fields => simpa [ht, Except.map] using hf
  | _ => simp [ht] at hf

namespace Renderer

variable [Platform] {r : Renderer} {template : String} {e : RenderError}

theorem render_of_statusError {h : Heartbeat} (he : h.statusError? = some e) :
    r.render template monitor (some h) = .error e := by
  have hexpand : expandHeartbeat (some h) template.toList = .error e := by
    rw [expandHeartbeat, ofValue_eq_error he]
    rfl
  rw [render, hexpand]
  rfl

theorem exists_expandHeartbeat (hh : ∀ h ∈ heartbeat, h.status.IsVerdict)
    (htime : ∀ h ∈ heartbeat, h.time.isWritable = true) (cs : List Char) :
    ∃ text, expandHeartbeat heartbeat cs = .ok text := by
  cases heartbeat with
  | none => exact ⟨_, rfl⟩
  | some h =>
    obtain ⟨s, hs⟩ := Option.isSome_iff_exists.mp (Value.isVerdict_iff.mp (hh h rfl))
    exact ⟨_, expandHeartbeat_eq_ok_iff.mpr ⟨s, hs, htime h rfl, rfl⟩⟩

theorem render_of_timeFault {h : Heartbeat} {f : RenderFault} (hs : h.status.IsVerdict)
    (hf : h.timeFault? = some f) : r.render template monitor (some h) = .error (.fault f) := by
  obtain ⟨s, hs⟩ := Option.isSome_iff_exists.mp (Value.isVerdict_iff.mp hs)
  obtain ⟨htime, rfl⟩ := Heartbeat.timeFault?_eq_some_iff.mp hf
  have hexpand : expandHeartbeat (some h) template.toList = .error (.fault .tooManyDigits) := by
    rw [expandHeartbeat_of_status hs]
    exact Value.ifWritable_of_not htime _
  rw [render, hexpand]
  rfl

theorem render_of_typeFault {m : Monitor} {f : RenderFault}
    (hh : ∀ h ∈ heartbeat, h.status.IsVerdict)
    (htime : ∀ h ∈ heartbeat, h.time.isWritable = true) (hf : m.typeFault? = some f) :
    r.render template (some m) heartbeat = .error (.fault f) := by
  have hbuild : Dictionary.build (some m) heartbeat = .error (.fault f) := by
    rw [Dictionary.build, Dictionary.ofOption, ofMonitor_eq_error hf]
    rfl
  obtain ⟨text, htext⟩ := exists_expandHeartbeat hh htime template.toList
  rw [render, htext, hbuild]
  rfl

/-- The values are written last, so their fault counts only when status, time and type are right. -/
theorem render_of_valuesFault {f : RenderFault} (hh : ∀ h ∈ heartbeat, h.status.IsVerdict)
    (htime : ∀ h ∈ heartbeat, h.time.isWritable = true)
    (hsimple : ∀ m ∈ monitor, m.type.isSimple = true)
    (hf : valuesFault? monitor heartbeat = some f) :
    r.render template monitor heartbeat = .error (.fault f) := by
  obtain ⟨text, htext⟩ := exists_expandHeartbeat hh htime template.toList
  obtain ⟨d, hd⟩ := Dictionary.exists_build hsimple fun h hmem =>
    ⟨Value.isVerdict_iff.mp (hh h hmem), htime h hmem⟩
  have hparts : ¬ PartsWritable monitor heartbeat := fun hparts => by
    rw [valuesFault?_eq_none_iff.mpr hparts] at hf
    cases hf
  have hwritable := mt (Dictionary.isWritable_build_iff hd).mp hparts
  rw [valuesFault?, if_neg hparts] at hf
  obtain rfl := Option.some.inj hf
  rw [render, htext]
  simp only [bind, Except.bind, hd, Dictionary.substitute?, Value.ifWritable_of_not hwritable]

/-- Rendering fails with the first thing that is wrong, whatever the template says. -/
theorem render_of_failure (hfailure : failure? monitor heartbeat = some e) :
    r.render template monitor heartbeat = .error e := by
  rcases Option.or_eq_some_iff.mp hfailure with hstatus | ⟨hstatus, hfault⟩
  · obtain ⟨h, rfl, he⟩ := Option.bind_eq_some_iff.mp hstatus
    exact render_of_statusError he
  have hverdict := bind_statusError?_eq_none_iff.mp hstatus
  obtain ⟨f, hf, rfl⟩ := Option.map_eq_some_iff.mp hfault
  rcases Option.or_eq_some_iff.mp hf with hfirst | ⟨hfirst, hvalues⟩
  · rcases Option.or_eq_some_iff.mp hfirst with htime | ⟨htime, htype⟩
    · obtain ⟨h, rfl, hlong⟩ := Option.bind_eq_some_iff.mp htime
      exact render_of_timeFault (hverdict h rfl) hlong
    · obtain ⟨m, rfl, hshape⟩ := Option.bind_eq_some_iff.mp htype
      exact render_of_typeFault hverdict (bind_timeFault?_eq_none_iff.mp htime) hshape
  · obtain ⟨htime, htype⟩ := Option.or_eq_none_iff.mp hfirst
    exact render_of_valuesFault hverdict (bind_timeFault?_eq_none_iff.mp htime)
      (bind_typeFault?_eq_none_iff.mp htype) hvalues

/-- With a verdict and a type that can be looked up only the limit of digits is left to fail on. -/
theorem render_of_not_partsWritable (hh : ∀ h ∈ heartbeat, h.status.IsVerdict)
    (hsimple : ∀ m ∈ monitor, m.type.isSimple = true) (hparts : ¬ PartsWritable monitor heartbeat) :
    r.render template monitor heartbeat = .error (.fault .tooManyDigits) := by
  have hfault : fault? monitor heartbeat = some .tooManyDigits := by
    rw [fault?, bind_typeFault?_eq_none_iff.mpr hsimple, Option.or_none, valuesFault?,
      if_neg hparts]
    cases htime : heartbeat.bind Heartbeat.timeFault? with
    | none => rfl
    | some f =>
      obtain ⟨h, -, hf⟩ := Option.bind_eq_some_iff.mp htime
      obtain ⟨-, rfl⟩ := Heartbeat.timeFault?_eq_some_iff.mp hf
      rfl
  exact render_of_failure (by
    rw [failure?, bind_statusError?_eq_none_iff.mpr hh, hfault]
    rfl)

variable (r template) in
theorem exists_render (h : failure? monitor heartbeat = none) :
    ∃ text, r.render template monitor heartbeat = .ok text := by
  obtain ⟨hverdict, hsimple, hparts⟩ := failure?_eq_none_iff.mp h
  obtain ⟨d, hd⟩ := Dictionary.exists_build hsimple fun h hh =>
    ⟨Value.isVerdict_iff.mp (hverdict h hh), hparts.time h hh⟩
  obtain ⟨text, htext⟩ := exists_expandHeartbeat hverdict hparts.time template.toList
  exact ⟨_, render_eq_ok_iff.mpr ⟨text, d, htext, hd, hparts, rfl⟩⟩

/-- The error of a rendering is told by the monitor and the heartbeat. -/
theorem render_eq_error_iff :
    r.render template monitor heartbeat = .error e ↔ failure? monitor heartbeat = some e := by
  refine ⟨fun hrun => ?_, render_of_failure⟩
  cases h : failure? monitor heartbeat with
  | none =>
    obtain ⟨text, htext⟩ := exists_render r template h
    rw [htext] at hrun
    cases hrun
  | some e' =>
    rw [render_of_failure h] at hrun
    exact congrArg some (Except.error.inj hrun)

theorem render_of_not_isVerdict {h : Heartbeat} (hh : heartbeat = some h)
    (hs : ¬ h.status.IsVerdict) :
    r.render template monitor heartbeat = .error (Status.refusal h.status) := by
  rw [hh]
  exact render_of_statusError (Heartbeat.statusError?_eq_some_iff.mpr ⟨hs, rfl⟩)

theorem render_ne_of_isVerdict (hs : ∀ h ∈ heartbeat, h.status.IsVerdict) (v : Value) :
    r.render template monitor heartbeat ≠ .error (.invalidStatus v) := by
  intro hr
  obtain ⟨h, hh, hnone, -⟩ := failure?_eq_invalidStatus_iff.mp (render_eq_error_iff.mp hr)
  exact hnone (hs h hh)

end Renderer

end Template

end UptimeAlert
