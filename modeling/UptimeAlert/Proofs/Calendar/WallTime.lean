import UptimeAlert.Calendar.Moment
import UptimeAlert.Proofs.Calendar.Date

namespace UptimeAlert

namespace Clock

theorem toMicros_ofMicros (n : Nat) : (ofMicros n).toMicros = n := by
  simp only [ofMicros, toMicros]
  omega

theorem isValid_ofMicros {n : Nat} (h : n < dayMicros) : (ofMicros n).isValid = true := by
  simp only [dayMicros] at h
  simp only [isValid, Bool.and_eq_true, decide_eq_true_eq]
  simp only [ofMicros]
  omega

theorem toMicros_lt {c : Clock} (h : c.isValid = true) : c.toMicros < dayMicros := by
  simp only [isValid, Bool.and_eq_true, decide_eq_true_eq] at h
  simp only [toMicros, dayMicros]
  omega

theorem ofMicros_toMicros {c : Clock} (h : c.isValid = true) : ofMicros c.toMicros = c := by
  obtain ⟨hour, minute, second, micro⟩ := c
  simp only [isValid, Bool.and_eq_true, decide_eq_true_eq] at h
  simp only [ofMicros, toMicros, mk.injEq]
  omega

end Clock

namespace WallTime

theorem days_lt (w : WallTime) : w.micros / dayMicros < Date.dayLimit :=
  Nat.div_lt_of_lt_mul (Nat.mul_comm _ _ ▸ w.inRange)

theorem isValid_date (w : WallTime) : w.date.isValid = true :=
  Date.isValid_ofDays w.days_lt

theorem isValid_clock (w : WallTime) : w.clock.isValid = true :=
  Clock.isValid_ofMicros (Nat.mod_lt _ (by decide))

theorem micros_eq (w : WallTime) :
    w.micros = w.date.toDays * dayMicros + w.clock.toMicros := by
  rw [date, clock, Date.toDays_ofDays, Clock.toMicros_ofMicros]
  exact (Nat.div_add_mod' _ _).symm

/-- A reading is told by its date and its time of day. -/
theorem ofDay?_date_clock (w : WallTime) : ofDay? w.date.toDays w.clock = some w := by
  rw [ofDay?, if_pos w.isValid_clock, ← w.micros_eq]
  exact dif_pos w.inRange

theorem toDays_date (w : WallTime) : w.date.toDays = w.micros / dayMicros :=
  Date.toDays_ofDays _

/-- Whether a count of microseconds since the beginning of year 1 falls in the years 1 to 9999. -/
def InCalendar (micros : Int) : Prop :=
  0 ≤ micros ∧ micros < (Date.daysBeforeYear 10000 * dayMicros : Nat)

theorem inCalendar_micros (w : WallTime) : InCalendar w.micros :=
  ⟨Int.natCast_nonneg _, Int.ofNat_lt.mpr w.inRange⟩

/-- A count of microseconds is shown by the reading that has this count, and by no other. -/
theorem ofMicros?_eq_some_iff {micros : Int} {w : WallTime} :
    ofMicros? micros = some w ↔ (w.micros : Int) = micros := by
  obtain ⟨count, hcount⟩ := w
  cases micros with
  | ofNat n =>
    have hcast : (count : Int) = Int.ofNat n ↔ n = count := by
      rw [Int.ofNat_eq_natCast]
      omega
    rw [hcast, ofMicros?]
    by_cases h : n < Date.dayLimit * dayMicros
    · simp [h]
    · have hne : n ≠ count := fun heq => h (heq ▸ hcount)
      simp [h, hne]
  | negSucc n =>
    have hne : (count : Int) ≠ Int.negSucc n := by omega
    simp [ofMicros?, hne]

/-- Every count that falls in the calendar is that of a reading. -/
theorem exists_micros_iff {micros : Int} :
    (∃ w : WallTime, (w.micros : Int) = micros) ↔ InCalendar micros := by
  constructor
  · rintro ⟨w, rfl⟩
    exact w.inCalendar_micros
  · rintro ⟨hlow, hhigh⟩
    lift micros to Nat using hlow
    exact ⟨⟨micros, Int.ofNat_lt.mp hhigh⟩, rfl⟩

theorem shift?_eq_some_iff {w w' : WallTime} {micros : Int} :
    w.shift? micros = some w' ↔ (w'.micros : Int) = w.micros + micros :=
  ofMicros?_eq_some_iff

theorem shift?_eq_none_iff {w : WallTime} {micros : Int} :
    w.shift? micros = none ↔ ¬ InCalendar (w.micros + micros) := by
  rw [← exists_micros_iff, Option.eq_none_iff_forall_ne_some, not_exists]
  simp only [ne_eq, shift?_eq_some_iff]

/-- A reading is made of its day and its time of day, and only of a time that a clock shows. -/
theorem ofDay?_eq_some_iff {days : Nat} {clock : Clock} {w : WallTime} :
    ofDay? days clock = some w ↔ clock.isValid = true ∧ w.date.toDays = days ∧ w.clock = clock := by
  constructor
  · intro h
    by_cases hclock : clock.isValid = true
    · have hlt := Clock.toMicros_lt hclock
      rw [ofDay?, if_pos hclock, ofMicros?_eq_some_iff] at h
      have hmicros : w.micros = clock.toMicros + days * dayMicros := by omega
      have htime : w.clock = clock := by
        rw [WallTime.clock, hmicros, Nat.add_mul_mod_self_right, Nat.mod_eq_of_lt hlt,
          Clock.ofMicros_toMicros hclock]
      refine ⟨hclock, ?_, htime⟩
      rw [toDays_date, hmicros, Nat.add_mul_div_right _ _ (by decide), Nat.div_eq_of_lt hlt,
        Nat.zero_add]
    · simp [ofDay?, hclock] at h
  · rintro ⟨-, rfl, rfl⟩
    exact w.ofDay?_date_clock

/-- Every day of the calendar and every time that a clock shows make a reading. -/
theorem exists_ofDay? {days : Nat} {clock : Clock} (hdays : days < Date.dayLimit)
    (hclock : clock.isValid = true) : ∃ w, ofDay? days clock = some w := by
  have hlt := Clock.toMicros_lt hclock
  have hrange : days * dayMicros + clock.toMicros < Date.dayLimit * dayMicros := by
    calc days * dayMicros + clock.toMicros
        < days * dayMicros + dayMicros := Nat.add_lt_add_left hlt _
      _ = (days + 1) * dayMicros := (Nat.succ_mul _ _).symm
      _ ≤ Date.dayLimit * dayMicros := Nat.mul_le_mul_right _ hdays
  exact ⟨⟨_, hrange⟩, by rw [ofDay?, if_pos hclock, ofMicros?_eq_some_iff]⟩

end WallTime

namespace Offset

/-- The lead of an offset on a clock, without its sign. -/
def clock (o : Offset) : Clock :=
  Clock.ofMicros o.micros.natAbs

theorem isValid_clock (o : Offset) : o.clock.isValid = true :=
  Clock.isValid_ofMicros o.inRange

theorem toMicros_clock (o : Offset) : o.clock.toMicros = o.micros.natAbs := by
  rw [clock, Clock.toMicros_ofMicros]

/-- An offset that is kept in writing: none, or one of a second or more. -/
def IsKept (o : Offset) : Prop :=
  o.micros = 0 ∨ 1000000 ≤ o.micros.natAbs

theorem isKept_of_dvd {o : Offset} (h : 1000000 ∣ o.micros) : o.IsKept := by
  unfold IsKept
  omega

theorem ofMicros?_clock (o : Offset) :
    ofMicros? (if o.micros < 0 then -(o.clock.toMicros : Int) else o.clock.toMicros) = some o := by
  have hmicros : (if o.micros < 0 then -(o.clock.toMicros : Int) else o.clock.toMicros) =
      o.micros := by
    rw [toMicros_clock]
    split <;> omega
  rw [hmicros]
  exact dif_pos o.inRange

end Offset

namespace Moment

/-- The offset of a date-time is kept in writing, if it has one. -/
def IsKept (m : Moment) : Prop :=
  ∀ o ∈ m.offset, o.IsKept

/-- How far the clock of a date-time is ahead of one without an offset, in microseconds. -/
def lead (m : Moment) : Int :=
  (m.offset.map Offset.micros).getD 0

/-- The instant of a date-time is its reading less its lead, where that falls in the calendar. -/
theorem instant?_eq_some_iff {m : Moment} {x : Instant} :
    m.instant? = some x ↔ (x.micros : Int) = m.wall.micros - m.lead := by
  obtain ⟨wall, offset⟩ := m
  cases offset with
  | none =>
    obtain ⟨micros, hmicros⟩ := wall
    obtain ⟨micros', hmicros'⟩ := x
    simp only [instant?, lead, Option.map_none, Option.getD_none, Option.some.injEq,
      WallTime.mk.injEq]
    omega
  | some o => exact WallTime.shift?_eq_some_iff

end Moment

end UptimeAlert
