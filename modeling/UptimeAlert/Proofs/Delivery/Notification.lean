import UptimeAlert.Notification
import UptimeAlert.Proofs.Template.Failure

namespace UptimeAlert

namespace Notification

/-- The heartbeat has a verdict, if there is one. -/
def HasVerdict (n : Notification) : Prop :=
  ∀ h ∈ n.heartbeat, h.status.IsVerdict

/-- The fault of a rendering for the notification, if its heartbeat has a verdict. -/
def fault? (n : Notification) : Option RenderFault :=
  Template.fault? n.monitor n.heartbeat

/-- The time of the heartbeat is looked at first. -/
theorem fault?_of_timeFault {n : Notification} {h : Heartbeat} {f : RenderFault}
    (hh : n.heartbeat = some h) (hf : h.timeFault? = some f) : n.fault? = some f := by
  rw [fault?, Template.fault?, hh, Option.bind_some, hf]
  rfl

theorem checkStatus_of_hasVerdict {n : Notification} (h : n.HasVerdict) :
    n.checkStatus = .ok () := by
  unfold checkStatus
  cases hh : n.heartbeat with
  | none => rfl
  | some hb =>
    obtain ⟨s, hs⟩ := Option.isSome_iff_exists.mp (Value.isVerdict_iff.mp (h hb hh))
    simp only [Status.ofValue_eq_ok_iff.mpr hs]
    rfl

theorem checkStatus_of_not_isVerdict {n : Notification} {h : Heartbeat} (hh : n.heartbeat = some h)
    (hs : ¬ h.status.IsVerdict) : n.checkStatus = .error (Status.refusal h.status) := by
  have he : h.statusError? = some (Status.refusal h.status) :=
    Heartbeat.statusError?_eq_some_iff.mpr ⟨hs, rfl⟩
  simp only [checkStatus, hh]
  rw [Template.ofValue_eq_error he]
  rfl

theorem exists_of_not_hasVerdict {n : Notification} (h : ¬ n.HasVerdict) :
    ∃ hb, n.heartbeat = some hb ∧ ¬ hb.status.IsVerdict := by
  simpa [HasVerdict] using h

/-- With a verdict only a fault keeps a template from being rendered. -/
theorem failure?_of_hasVerdict {n : Notification} (h : n.HasVerdict) :
    Template.failure? n.monitor n.heartbeat = n.fault?.map .fault := by
  rw [Template.failure?, Template.bind_statusError?_eq_none_iff.mpr h, Option.none_or, fault?]

variable [Platform]

theorem hasVerdict_of_render {n : Notification} {r : Template.Renderer} {template text : String}
    (h : r.render template n.monitor n.heartbeat = .ok text) : n.HasVerdict := by
  cases hfailure : Template.failure? n.monitor n.heartbeat with
  | none => exact (Template.failure?_eq_none_iff.mp hfailure).1
  | some e =>
    rw [Template.Renderer.render_of_failure hfailure] at h
    cases h

/-- Rendering a template for a notification, where there is a template. -/
theorem rendered_eq_error_iff {n : Notification} (h : n.HasVerdict) (r : Template.Renderer)
    (plain : Except RenderError String) {template : Option String} {e : RenderError} :
    (template.elim plain fun t => r.render t n.monitor n.heartbeat) = .error e ↔
      template = none ∧ plain = .error e ∨
        template.isSome = true ∧ ∃ f, n.fault? = some f ∧ .fault f = e := by
  cases template with
  | none => simp
  | some t => simp [Template.Renderer.render_eq_error_iff, failure?_of_hasVerdict h]

end Notification

end UptimeAlert
