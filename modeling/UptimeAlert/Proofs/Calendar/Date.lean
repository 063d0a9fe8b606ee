import Mathlib.Algebra.Order.Ring.Nat
import UptimeAlert.Calendar.Date

namespace UptimeAlert.Date

/-- A day inside months of given lengths falls into one of them, after those before it. -/
theorem exists_inMonth {lengths : List Nat} {day : Nat} (h : day < lengths.sum) (passed : Nat) :
    ∃ months rest, inMonth passed lengths day = (passed + months + 1, rest + 1) ∧
      rest < lengths.getD months 0 ∧ (lengths.take months).sum + rest = day := by
  induction lengths generalizing day passed with
  | nil => simp at h
  | cons length lengths ih =>
    by_cases hday : day < length
    · exact ⟨0, day, by simp [inMonth, hday], by simpa using hday, by simp⟩
    · have hrest : day - length < lengths.sum := by
        rw [List.sum_cons] at h
        omega
      obtain ⟨months, rest, hmonth, hlt, hsum⟩ := ih hrest (passed + 1)
      refine ⟨months + 1, rest, ?_, by simpa using hlt, ?_⟩
      · rw [inMonth, if_neg hday, hmonth]
        congr 1
        omega
      · rw [List.take_succ_cons, List.sum_cons]
        omega

theorem sum_monthLengths (year : Nat) :
    (monthLengths year).sum = if isLeap year then 366 else 365 := by
  unfold monthLengths
  cases isLeap year <;> rfl

theorem isLeap_iff {year : Nat} :
    isLeap year = true ↔ year % 4 = 0 ∧ (year % 100 ≠ 0 ∨ year % 400 = 0) := by
  simp [isLeap]

/-- The parts of a day number: cycles of 400 years, centuries, groups of four years, years and days
of the year. -/
structure Parts where
  cycles : Nat
  centuries : Nat
  fours : Nat
  years : Nat
  days : Nat

def Parts.year (p : Parts) : Nat :=
  400 * p.cycles + 100 * p.centuries + 4 * p.fours + p.years + 1

def parts (n : Nat) : Parts :=
  let inCycle := n % 146097
  let century := min (inCycle / 36524) 3
  let inCentury := inCycle - century * 36524
  let inFour := inCentury % 1461
  let yearOfFour := min (inFour / 365) 3
  ⟨n / 146097, century, inCentury / 1461, yearOfFour, inFour - yearOfFour * 365⟩

theorem parts_bounds (n : Nat) :
    (parts n).centuries < 4 ∧ (parts n).fours < 25 ∧ (parts n).years < 4 := by
  simp only [parts]
  omega

theorem days_eq_parts (n : Nat) :
    146097 * (parts n).cycles + 36524 * (parts n).centuries + 1461 * (parts n).fours +
      365 * (parts n).years + (parts n).days = n := by
  simp only [parts]
  omega

/-- The days before a year, told by the parts of its day number instead of by divisions of the year.
-/
theorem daysBeforeYear_year {p : Parts} (hc : p.centuries < 4) (hf : p.fours < 25)
    (hy : p.years < 4) :
    daysBeforeYear p.year =
      146097 * p.cycles + 36524 * p.centuries + 1461 * p.fours + 365 * p.years := by
  have hfour : (400 * p.cycles + 100 * p.centuries + 4 * p.fours + p.years) / 4 =
      100 * p.cycles + 25 * p.centuries + p.fours := by omega
  have hhundred : (400 * p.cycles + 100 * p.centuries + 4 * p.fours + p.years) / 100 =
      4 * p.cycles + p.centuries := by omega
  have hcycle : (400 * p.cycles + 100 * p.centuries + 4 * p.fours + p.years) / 400 = p.cycles := by
    omega
  simp only [daysBeforeYear, Parts.year, Nat.add_sub_cancel, hfour, hhundred, hcycle]
  omega

/-- The last year of four is a leap year, except at the end of a century that does not end a cycle.
-/
theorem isLeap_year {p : Parts} (hc : p.centuries < 4) (hf : p.fours < 25) (hy : p.years < 4) :
    isLeap p.year = true ↔ p.years = 3 ∧ (p.fours ≠ 24 ∨ p.centuries = 3) := by
  rw [isLeap_iff, Parts.year]
  omega

/-- The remainder of a day number lies inside the year that its other parts name. -/
theorem days_lt_year (n : Nat) : (parts n).days < (monthLengths (parts n).year).sum := by
  obtain ⟨hc, hf, hy⟩ := parts_bounds n
  have hleap := isLeap_year hc hf hy
  have hdays : (parts n).days < 365 ∨ (parts n).days = 365 ∧ (parts n).years = 3 ∧
      ((parts n).fours ≠ 24 ∨ (parts n).centuries = 3) := by
    simp only [parts]
    omega
  rw [sum_monthLengths]
  rcases hdays with hlt | ⟨heq, hyear⟩
  · split <;> omega
  · rw [if_pos (hleap.mpr hyear)]
    omega

theorem ofDays_eq (n : Nat) :
    ofDays n = ⟨(parts n).year, (inMonth 0 (monthLengths (parts n).year) (parts n).days).1,
      (inMonth 0 (monthLengths (parts n).year) (parts n).days).2⟩ := rfl

/-- The date of a day number has as many days before it. -/
theorem toDays_ofDays (n : Nat) : (ofDays n).toDays = n := by
  obtain ⟨hc, hf, hy⟩ := parts_bounds n
  obtain ⟨months, rest, hmonth, -, hsum⟩ := exists_inMonth (days_lt_year n) 0
  have hbefore : daysBeforeMonth (parts n).year (0 + months + 1) + rest = (parts n).days := by
    rw [← hsum, daysBeforeMonth, ← List.sum_eq_foldl]
    simp
  rw [ofDays_eq, hmonth, toDays, daysBeforeYear_year hc hf hy]
  have hdays := days_eq_parts n
  simp only [Nat.add_sub_cancel]
  omega

theorem year_le_of_days {n : Nat} (h : n < dayLimit) : (parts n).year ≤ 9999 := by
  obtain ⟨hc, hf, hy⟩ := parts_bounds n
  have hdays := days_eq_parts n
  simp only [dayLimit] at h
  simp only [Parts.year]
  omega

theorem isValid_ofDays {n : Nat} (h : n < dayLimit) : (ofDays n).isValid = true := by
  obtain ⟨months, rest, hmonth, hlt, -⟩ := exists_inMonth (days_lt_year n) 0
  have hyear := year_le_of_days h
  have hin : rest < daysInMonth (parts n).year (0 + months + 1) := by
    simpa [daysInMonth] using hlt
  have hpos : 1 ≤ (parts n).year := by simp [Parts.year]
  rw [ofDays_eq, hmonth]
  simp only [isValid, Bool.and_eq_true, decide_eq_true_eq]
  exact ⟨⟨⟨hpos, hyear⟩, by omega⟩, hin⟩

theorem bounds_of_isValid {d : Date} (h : d.isValid = true) :
    d.year ≤ 9999 ∧ d.month ≤ 12 ∧ d.day ≤ 31 := by
  simp only [isValid, Bool.and_eq_true, decide_eq_true_eq] at h
  obtain ⟨⟨⟨-, hyear⟩, hpos⟩, hday⟩ := h
  have hmonth : d.month - 1 < (monthLengths d.year).length := by
    by_contra hge
    have hnone : daysInMonth d.year d.month = 0 := by
      simp [daysInMonth, List.getElem?_eq_none (Nat.le_of_not_lt hge)]
    omega
  have hlengths : ∀ length ∈ monthLengths d.year, length ≤ 31 := by
    unfold monthLengths
    cases isLeap d.year <;> decide
  have hlast : daysInMonth d.year d.month ≤ 31 := by
    unfold daysInMonth
    split
    · omega
    · rw [List.getD_eq_getElem?_getD, List.getElem?_eq_getElem hmonth, Option.getD_some]
      exact hlengths _ (List.getElem_mem hmonth)
  have hcount : (monthLengths d.year).length = 12 := rfl
  exact ⟨hyear, by omega, by omega⟩

end UptimeAlert.Date
