import UptimeAlert.Platform.Standard
import UptimeAlert.Proofs.Heartbeat.OffsetShift
import UptimeAlert.Template.Renderer

namespace UptimeAlert

theorem Monitor.ofFields_toFields (m : Monitor) : ofFields m.toFields = m := rfl

theorem Status.ofCode?_code (s : Status) : ofCode? s.code = some s := by
  cases s <;> rfl

namespace Heartbeat

def storedTime : Value → Value
  | .moment m => .text (String.ofList m.isoText)
  | other => other

def storedStatus : Value → Value
  | .status s => .int s.code
  | other => other

theorem ofFields_toFields (h : Heartbeat) :
    ofFields h.toFields =
      .ok { h with time := storedTime h.time, status := storedStatus h.status } := rfl

theorem instantOf?_isoText {d : Moment} (hd : d.IsKept) :
    instantOf? (.text (String.ofList d.isoText)) = instantOf? (.moment d) := by
  simp [instantOf?, d.strip_isoText, Calendar.Reader.read?_isoText hd]

/-- The instant of a date-time is its reading less its lead, and there is none where the calendar
does not reach. -/
theorem isInstantAt_moment (d : Moment) :
    IsInstantAt (instantOf? (.moment d)) (d.wall.micros - d.lead) := by
  refine ⟨fun _ => Moment.instant?_eq_some_iff, ?_⟩
  rw [← WallTime.exists_micros_iff, Option.eq_none_iff_forall_ne_some, not_exists]
  exact forall_congr' fun _ => not_congr Moment.instant?_eq_some_iff

theorem instantOf?_storedTime {v : Value} (hv : ∀ d, v = .moment d → d.IsKept) :
    instantOf? (storedTime v) = instantOf? v := by
  cases v with
  | moment d => exact instantOf?_isoText (hv d rfl)
  | _ => rfl

theorem shownTime?_storedTime (v : Value) : shownTime? (storedTime v) = shownTime? v := by
  cases v <;> rfl

theorem isWritable_storedTime (v : Value) : (storedTime v).isWritable = v.isWritable := by
  cases v <;> rfl

/-- A stored status is the same verdict, or the same complaint. -/
theorem ofValue_storedStatus (v : Value) : Status.ofValue (storedStatus v) = Status.ofValue v := by
  cases v with
  | status s => simp [storedStatus, Status.ofValue, Status.ofValue?, s.ofCode?_code]
  | _ => rfl

end Heartbeat

namespace Template.Renderer

/-- A stored date-time reads as its instant, or as none if that lies outside the calendar. A
template shows the same, or fails in the same way, for a monitor and a heartbeat and for what is
loaded after storing them. -/
theorem render_stored [Platform] (r : Renderer) (template : String) (m : Monitor) (h : Heartbeat)
    (hh : ∀ d, h.time = .moment d → d.IsKept) :
    (∀ d : Moment, d.IsKept →
      Heartbeat.instantOf? (.text (String.ofList d.isoText)) = Heartbeat.instantOf? (.moment d) ∧
      Heartbeat.IsInstantAt (Heartbeat.instantOf? (.moment d)) (d.wall.micros - d.lead)) ∧
    ∃ h', Heartbeat.ofFields h.toFields = .ok h' ∧
      r.render template (some (Monitor.ofFields m.toFields)) (some h') =
        r.render template (some m) (some h) := by
  refine ⟨fun d hd => ⟨Heartbeat.instantOf?_isoText hd, Heartbeat.isInstantAt_moment d⟩, _,
    h.ofFields_toFields, ?_⟩
  have hstatus := Heartbeat.ofValue_storedStatus h.status
  have htime := Heartbeat.instantOf?_storedTime hh
  have hshown := Heartbeat.shownTime?_storedTime h.time
  have hwritable := Heartbeat.isWritable_storedTime h.time
  rw [m.ofFields_toFields, render, render]
  simp only [expandHeartbeat, localizeTimes, Dictionary.build, Dictionary.ofOption,
    Dictionary.ofHeartbeat, hstatus, htime, hshown, Value.ifWritable, hwritable]

/-- The first instant on a clock that is ahead: its date-time lies in the calendar, and the instant
before it. -/
theorem render_stored_early :
    let d : Moment := ⟨⟨0, by decide⟩, some ⟨19815000000, by decide⟩⟩
    let h : Heartbeat := ⟨.moment d, .status .up, .null, .null, .null, .null, .null⟩
    let m : Monitor := Monitor.ofFields [("name", .text "api")]
    let template := "\x7b\x7bNAME\x7d\x7d: \x7b\x7bTIME:UTC\x7d\x7d"
    String.ofList d.isoText = "0001-01-01T00:00:00+05:30:15" ∧
      (∀ d', h.time = .moment d' → d'.IsKept) ∧
      Heartbeat.instantOf? (.text (String.ofList d.isoText)) = none ∧
      ∃ h', Heartbeat.ofFields h.toFields = .ok h' ∧
        (Renderer.mk "").render template (some (Monitor.ofFields m.toFields)) (some h') =
          (Renderer.mk "").render template (some m) (some h) := by
  intro d h m template
  have hd : d.IsKept := by
    rintro _ ⟨⟩
    exact Offset.isKept_of_dvd (by decide)
  have hkept : ∀ d', h.time = .moment d' → d'.IsKept := by
    rintro _ ⟨⟩
    exact hd
  obtain ⟨hread, hrender⟩ := render_stored ⟨""⟩ template m h hkept
  obtain ⟨hsame, hinstant⟩ := hread d hd
  have hnone : Heartbeat.instantOf? (.moment d) = none :=
    hinstant.2.mpr fun hin => absurd hin.1 (by decide)
  exact ⟨by decide +kernel, hkept, hsame.trans hnone, hrender⟩

end Template.Renderer

end UptimeAlert
