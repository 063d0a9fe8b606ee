import UptimeAlert.Proofs.Heartbeat.ReadBack

namespace UptimeAlert

open UptimeAlert.Calendar
open UptimeAlert.Text

namespace Calendar.Reader

variable {s : List UInt8} {stop days : Nat}

theorem lt_dayLimit_of_weekDate? {extended : Bool} {year p : Nat}
    (h : weekDate? extended year s p stop = some days) : days < Date.dayLimit := by
  simp only [weekDate?, Option.bind_eq_bind, Option.bind_eq_some_iff] at h
  obtain ⟨week, -, h⟩ := h
  split at h
  case isTrue =>
    simp only [Option.bind_eq_some_iff] at h
    obtain ⟨_, -, _, -, hdays⟩ := h
    exact (Date.ofWeek?_eq_some_iff.mp hdays).2
  case isFalse => exact (Date.ofWeek?_eq_some_iff.mp h).2

theorem lt_dayLimit_of_calendarDate? {extended : Bool} {year p : Nat}
    (h : calendarDate? extended year s p = some days) : days < Date.dayLimit := by
  simp only [calendarDate?, Option.bind_eq_bind, Option.bind_eq_some_iff] at h
  obtain ⟨_, -, _, -, _, -, hdate⟩ := h
  obtain ⟨date, hvalid, -, rfl⟩ := days_eq_some_iff.mp hdate
  exact Date.toDays_lt_dayLimit hvalid

/-- Whatever is read as a date is a day of the calendar. -/
theorem lt_dayLimit_of_date? (h : date? s stop = some days) : days < Date.dayLimit := by
  simp only [date?, Option.bind_eq_bind, Option.bind_eq_some_iff] at h
  obtain ⟨year, -, h⟩ := h
  generalize (if byteAt s 4 = code '-' then 5 else 4) = p at h
  split at h
  case isTrue => exact lt_dayLimit_of_weekDate? h
  case isFalse => exact lt_dayLimit_of_calendarDate? h

/-- What bytes say as a date-time: a day, a time of day and an offset. A date alone says its
midnight. -/
inductive Says (s : List UInt8) : Nat → Clock → Option Offset → Prop
  | date {stop days : Nat} (hstop : dateEnd? s = some stop) (hdays : date? s stop = some days)
      (hend : s.length ≤ stop) : Says s days ⟨0, 0, 0, 0⟩ none
  | time {stop days : Nat} {clock : Clock} {offset : Option Offset} (hstop : dateEnd? s = some stop)
      (hdays : date? s stop = some days) (hmore : stop < s.length)
      (htime : time? s (stop + widthAt (byteAt s stop)) = some (clock, offset)) :
      Says s days clock offset

/-- What the reader answers is put together from the parts that the text says. -/
theorem readBytes?_eq_some_iff {m : Moment} : readBytes? s = some m ↔
    ∃ days clock, Says s days clock m.offset ∧ WallTime.ofDay? days clock = some m.wall := by
  obtain ⟨wall, offset⟩ := m
  constructor
  · intro h
    simp only [readBytes?, Option.bind_eq_bind, Option.bind_eq_some_iff] at h
    obtain ⟨stop, hstop, days, hdays, h⟩ := h
    by_cases hend : s.length ≤ stop
    · rw [if_pos hend, Option.bind_eq_some_iff] at h
      obtain ⟨wall, hwall, hmoment⟩ := h
      cases hmoment
      exact ⟨days, _, .date hstop hdays hend, hwall⟩
    · rw [if_neg hend, Option.bind_eq_some_iff] at h
      obtain ⟨⟨clock, offset⟩, htime, h⟩ := h
      obtain ⟨wall, hwall, hmoment⟩ := Option.bind_eq_some_iff.mp h
      cases hmoment
      exact ⟨days, clock, .time hstop hdays (Nat.lt_of_not_le hend) htime, hwall⟩
  · rintro ⟨days, clock, hsays, hwall⟩
    cases hsays with
    | date hstop hdays hend =>
      simp only [readBytes?, hstop, hdays, Option.bind_eq_bind, Option.bind_some]
      rw [if_pos hend, hwall, Option.bind_some]
    | time hstop hdays hmore htime =>
      simp only [readBytes?, hstop, hdays, Option.bind_eq_bind, Option.bind_some]
      rw [if_neg (Nat.not_le_of_lt hmore), htime, Option.bind_some, hwall, Option.bind_some]

theorem Says.lt_dayLimit {clock : Clock} {offset : Option Offset} (h : Says s days clock offset) :
    days < Date.dayLimit := by
  cases h with
  | date _ hdays => exact lt_dayLimit_of_date? hdays
  | time _ hdays => exact lt_dayLimit_of_date? hdays

end Calendar.Reader

namespace WallTime

/-- Whether a count is that of a real date and time of day in the years 1 to 9999. -/
structure IsReal (w : WallTime) : Prop where
  year : 1 ≤ w.date.year ∧ w.date.year ≤ 9999
  month : 1 ≤ w.date.month ∧ w.date.month ≤ 12
  day : 1 ≤ w.date.day ∧ w.date.day ≤ Date.daysInMonth w.date.year w.date.month
  hour : w.clock.hour < 24
  minute : w.clock.minute < 60
  second : w.clock.second < 60
  micro : w.clock.micro < 1000000
  micros_eq : w.micros = w.date.toDays * dayMicros + w.clock.toMicros

theorem isReal (w : WallTime) : w.IsReal := by
  have hdate := w.isValid_date
  have hclock := w.isValid_clock
  have hmonth := (Date.day_bounds hdate).1
  have hmonth' := (Date.bounds_of_isValid hdate).2.1
  simp only [Date.isValid, Bool.and_eq_true, decide_eq_true_eq] at hdate
  simp only [Clock.isValid, Bool.and_eq_true, decide_eq_true_eq] at hclock
  obtain ⟨⟨hyear, hfirst⟩, hlast⟩ := hdate
  obtain ⟨⟨⟨hhour, hminute⟩, hsecond⟩, hmicro⟩ := hclock
  exact ⟨hyear, ⟨hmonth, hmonth'⟩, ⟨hfirst, hlast⟩, hhour, hminute, hsecond, hmicro, w.micros_eq⟩

end WallTime

namespace Heartbeat

/-- What is said as a time: a day, a time of day whose fields may be anything, and the microseconds
that its clock is ahead. -/
structure Said where
  days : Nat
  clock : Clock
  lead : Int

/-- The microseconds since the beginning of year 1 up to the instant that is said. -/
def Said.micros (a : Said) : Int :=
  (a.days * dayMicros + a.clock.toMicros : Nat) - a.lead

/-- What a value says as a time. Only date-times and texts say anything. -/
inductive Says : Value → Said → Prop
  | moment (m : Moment) : Says (.moment m) ⟨m.wall.date.toDays, m.wall.clock, m.lead⟩
  | text {s : String} {days : Nat} {clock : Clock} {offset : Option Offset}
      (h : Reader.Says (Utf8.encode (strip s.toList)) days clock offset) :
      Says (.text s) ⟨days, clock, (offset.map Offset.micros).getD 0⟩

variable {v : Value} {a : Said} {x : Instant}

theorem Says.bounds (h : Says v a) : a.days < Date.dayLimit ∧ a.lead.natAbs < dayMicros := by
  have hlead (offset : Option Offset) :
      ((offset.map Offset.micros).getD 0).natAbs < dayMicros := by
    cases offset with
    | none => decide
    | some o => exact o.inRange
  cases h with
  | moment m => exact ⟨Date.toDays_lt_dayLimit m.wall.isValid_date, hlead m.offset⟩
  | text h => exact ⟨h.lt_dayLimit, hlead _⟩

/-- A value has the instant that it says, if it says a time that a clock shows. -/
theorem instantOf?_eq_some_iff : instantOf? v = some x ↔
    ∃ a, Says v a ∧ a.clock.isValid = true ∧ (x.micros : Int) = a.micros := by
  constructor
  · intro h
    cases v with
    | moment m =>
      refine ⟨_, .moment m, m.wall.isValid_clock, ?_⟩
      rw [Moment.instant?_eq_some_iff.mp h, Said.micros, ← m.wall.micros_eq]
    | text s =>
      obtain ⟨m, hread, hinstant⟩ := Option.bind_eq_some_iff.mp h
      obtain ⟨days, clock, hsays, hwall⟩ := Reader.readBytes?_eq_some_iff.mp hread
      obtain ⟨hvalid, rfl, rfl⟩ := WallTime.ofDay?_eq_some_iff.mp hwall
      refine ⟨_, .text hsays, hvalid, ?_⟩
      rw [Moment.instant?_eq_some_iff.mp hinstant, Said.micros, ← m.wall.micros_eq, Moment.lead]
    | _ => cases h
  · rintro ⟨a, hsays, hvalid, hmicros⟩
    cases hsays with
    | moment m =>
      rw [Said.micros, ← m.wall.micros_eq] at hmicros
      exact Moment.instant?_eq_some_iff.mpr hmicros
    | @text s days clock offset h =>
      obtain ⟨wall, hwall⟩ := WallTime.exists_ofDay? h.lt_dayLimit hvalid
      have hread : Reader.read? (strip s.toList) = some ⟨wall, offset⟩ :=
        Reader.readBytes?_eq_some_iff.mpr ⟨days, clock, h, hwall⟩
      obtain ⟨-, rfl, rfl⟩ := WallTime.ofDay?_eq_some_iff.mp hwall
      rw [Said.micros, ← wall.micros_eq] at hmicros
      rw [instantOf?, hread]
      exact Moment.instant?_eq_some_iff.mpr hmicros

/-- A value has no instant only if all it says lies outside the clock or the calendar. -/
theorem instantOf?_eq_none_iff : instantOf? v = none ↔
    ∀ a, Says v a → a.clock.isValid = true → ¬ WallTime.InCalendar a.micros := by
  rw [Option.eq_none_iff_forall_ne_some]
  constructor
  · intro hnone a hsays hvalid hin
    obtain ⟨x, hx⟩ := WallTime.exists_micros_iff.mpr hin
    exact hnone x (instantOf?_eq_some_iff.mpr ⟨a, hsays, hvalid, hx⟩)
  · intro hnone x hx
    obtain ⟨a, hsays, hvalid, hmicros⟩ := instantOf?_eq_some_iff.mp hx
    exact hnone a hsays hvalid (hmicros ▸ x.inCalendar_micros)

/-- Every value has the instant that it says, or none if it says none that lies in the calendar.
Such an instant is a real date and time, and every known zone shows it whose clock can. -/
theorem instantOf?_real [Platform] (v : Value) :
    (∀ x, instantOf? v = some x ↔
      ∃ a, Says v a ∧ a.clock.isValid = true ∧ (x.micros : Int) = a.micros) ∧
    (instantOf? v = none ↔
      ∀ a, Says v a → a.clock.isValid = true → ¬ WallTime.InCalendar a.micros) ∧
    (∀ a, Says v a → a.days < Date.dayLimit ∧ a.lead.natAbs < dayMicros) ∧
    ∀ x, instantOf? v = some x → x.IsReal ∧
      ∀ name z, Platform.zone? (String.ofList name) = some z →
        WallTime.InCalendar (z.localMicros x) →
        ∃ t, Template.ZonedTime.show? x name = some t := by
  refine ⟨fun x => instantOf?_eq_some_iff, instantOf?_eq_none_iff, fun a => Says.bounds,
    fun x _ => ⟨x.isReal, fun name z hname hin => ?_⟩⟩
  rw [Zone.show?_eq hname, ← Option.isSome_iff_exists, ← Option.ne_none_iff_isSome, ne_eq,
    Zone.stamp?_eq_none_iff, not_not]
  exact hin

-- The instant lies a minute before year 1.
example : instantOf? (.text "0001-01-01T00:00+00:01") = none := by decide +kernel

-- An offset of less than a second is none.
example : instantOf? (.text "2024-01-02T03:04:05+00:00:00.5") =
    instantOf? (.text "2024-01-02T03:04:05") := by decide +kernel

end Heartbeat

end UptimeAlert
