import UptimeAlert.Proofs.Calendar.DateOrder

namespace UptimeAlert.Date

/-- The day number of the Thursday in the week of a day. -/
def thursday (days : Nat) : Nat :=
  days - weekday days + 3

/-- Whether a day is the given one of a week, counted from 1 for Monday, and its week the given one
of a year. -/
structure IsWeekDate (year week day days : Nat) : Prop where
  weekday_eq : weekday days + 1 = day
  after : daysBeforeYear year ≤ thursday days
  before : thursday days < daysBeforeYear (year + 1)
  week_eq : (thursday days - daysBeforeYear year) / 7 + 1 = week

theorem thursday_lt_dayLimit {days : Nat} (h : days < dayLimit) : thursday days < dayLimit := by
  simp only [thursday, weekday, dayLimit] at *
  omega

/-- Weeks with a day in the calendar are those of its years. -/
theorem IsWeekDate.year_bounds {year week day days : Nat} (h : IsWeekDate year week day days)
    (hdays : days < dayLimit) : 1 ≤ year ∧ year ≤ 9999 := by
  constructor
  · by_contra hzero
    obtain rfl : year = 0 := by omega
    exact absurd h.before (Nat.not_lt_zero _)
  · by_contra hlarge
    have hlate : dayLimit ≤ thursday days := by
      calc dayLimit
          = daysBeforeYear 10000 := dayLimit_eq
        _ ≤ daysBeforeYear year := daysBeforeYear_mono (by omega)
        _ ≤ thursday days := h.after
    exact absurd (thursday_lt_dayLimit hdays) (Nat.not_lt_of_le hlate)

theorem sum_monthLengths_cases (year : Nat) :
    (monthLengths year).sum = 365 ∨ (monthLengths year).sum = 366 := by
  rw [sum_monthLengths]
  split <;> simp

theorem IsWeekDate.week_bounds {year week day days : Nat} (h : IsWeekDate year week day days)
    (hdays : days < dayLimit) : week ≤ 53 ∧ day ≤ 7 := by
  have hlength := sum_monthLengths_cases year
  have hbefore := h.before
  rw [daysBeforeYear_succ (h.year_bounds hdays).1] at hbefore
  have hday := h.weekday_eq
  have hweek := h.week_eq
  rw [weekday] at hday
  omega

theorem hasLongWeekYear_iff {year : Nat} :
    hasLongWeekYear year = true ↔ weekday (daysBeforeYear year) = 3 ∨
      weekday (daysBeforeYear year) = 2 ∧ (monthLengths year).sum = 366 := by
  rw [sum_monthLengths]
  cases hleap : isLeap year <;> simp [hasLongWeekYear, hleap]

/-- A week date is read as the day that has it. -/
theorem ofWeek?_eq_some_iff {year week day days : Nat} :
    ofWeek? year week day = some days ↔ IsWeekDate year week day days ∧ days < dayLimit := by
  have hlength := sum_monthLengths_cases year
  have hlong := @hasLongWeekYear_iff year
  -- The first Monday is counted from January 4, so it lies three days before the first Thursday.
  rw [weekday] at hlong
  constructor
  · intro h
    simp only [ofWeek?, Bool.and_eq_true, Bool.or_eq_true, decide_eq_true_eq, hlong] at h
    split at h
    case isFalse => cases h
    case isTrue hbounds =>
      split at h
      case isFalse => cases h
      case isTrue hlimit =>
        obtain rfl := Option.some.inj h
        have hnext := @daysBeforeYear_succ year (by omega)
        refine ⟨⟨?_, ?_, ?_, ?_⟩, hlimit⟩ <;> simp only [thursday, weekday, firstMonday] <;> omega
  · rintro ⟨h, hlimit⟩
    obtain ⟨hfirst, hlast⟩ := h.year_bounds hlimit
    obtain ⟨hday, hafter, hbefore, hweek⟩ := h
    rw [daysBeforeYear_succ (by omega)] at hbefore
    simp only [thursday, weekday] at hday hafter hbefore hweek
    have hexists : week ≤ 52 ∨ week = 53 ∧ hasLongWeekYear year = true := by
      rw [hlong]
      omega
    have hdays : firstMonday year + (week - 1) * 7 + (day - 1) = days := by
      simp only [firstMonday, weekday]
      omega
    have hbounds : 1 ≤ week ∧ 1 ≤ day ∧ day ≤ 7 := by omega
    simp only [ofWeek?, hdays, hlimit, if_true]
    rw [if_pos]
    simp only [Bool.and_eq_true, Bool.or_eq_true, decide_eq_true_eq]
    exact ⟨⟨⟨⟨⟨hfirst, hlast⟩, hbounds.1⟩, hexists⟩, hbounds.2.1⟩, hbounds.2.2⟩

/-- Every day of the calendar has a week date. -/
theorem exists_isWeekDate {days : Nat} (h : days < dayLimit) :
    ∃ year week day, IsWeekDate year week day days := by
  have hthursday := isValid_ofDays (thursday_lt_dayLimit h)
  have hyear := toDays_bounds hthursday
  rw [toDays_ofDays] at hyear
  exact ⟨_, _, _, rfl, hyear.1, hyear.2, rfl⟩

end UptimeAlert.Date
