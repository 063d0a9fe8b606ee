import Mathlib.Algebra.Order.BigOperators.Group.List
import UptimeAlert.Proofs.Calendar.WallTime

namespace UptimeAlert

namespace Date

variable {d e : Date}

/-- Whether a date comes before another one: by the year, then by the month, then by the day. -/
def Before (d e : Date) : Prop :=
  d.year < e.year ∨ d.year = e.year ∧ (d.month < e.month ∨ d.month = e.month ∧ d.day < e.day)

/-- Any two dates are in order or the same. -/
theorem before_trichotomy (d e : Date) : d.Before e ∨ d = e ∨ e.Before d := by
  rcases Nat.lt_trichotomy d.year e.year with hyear | hyear | hyear
  · exact .inl (.inl hyear)
  · rcases Nat.lt_trichotomy d.month e.month with hmonth | hmonth | hmonth
    · exact .inl (.inr ⟨hyear, .inl hmonth⟩)
    · rcases Nat.lt_trichotomy d.day e.day with hday | hday | hday
      · exact .inl (.inr ⟨hyear, .inr ⟨hmonth, hday⟩⟩)
      · obtain ⟨year, month, day⟩ := d
        exact .inr (.inl (by simp_all))
      · exact .inr (.inr (.inr ⟨hyear.symm, .inr ⟨hmonth.symm, hday⟩⟩))
    · exact .inr (.inr (.inr ⟨hyear.symm, .inl hmonth⟩))
  · exact .inr (.inr (.inl hyear))

/-- The leap rule in the count of days is the one in the lengths of the months. -/
theorem daysBeforeYear_succ {year : Nat} (h : 0 < year) :
    daysBeforeYear (year + 1) = daysBeforeYear year + (monthLengths year).sum := by
  obtain ⟨years, rfl⟩ := Nat.exists_eq_succ_of_ne_zero h.ne'
  have hcentury : years / 100 ≤ years / 4 := Nat.div_le_div_left (by decide) (by decide)
  have hfour : (years + 1) / 4 = years / 4 + if (years + 1) % 4 = 0 then 1 else 0 := by
    split <;> omega
  have hhundred : (years + 1) / 100 = years / 100 + if (years + 1) % 100 = 0 then 1 else 0 := by
    split <;> omega
  have hcycle : (years + 1) / 400 = years / 400 + if (years + 1) % 400 = 0 then 1 else 0 := by
    split <;> omega
  -- The rule of leap years says which of the three counts go up.
  have hlength : (if isLeap (years + 1) then 366 else 365) +
      (if (years + 1) % 100 = 0 then 1 else 0) =
        365 + (if (years + 1) % 4 = 0 then 1 else 0) +
          if (years + 1) % 400 = 0 then 1 else 0 := by
    simp only [isLeap_iff]
    split_ifs <;> omega
  rw [sum_monthLengths]
  simp only [daysBeforeYear, Nat.succ_eq_add_one, Nat.add_sub_cancel, hfour, hhundred, hcycle]
  omega

theorem daysBeforeYear_mono {year year' : Nat} (h : year ≤ year') :
    daysBeforeYear year ≤ daysBeforeYear year' := by
  induction year', h using Nat.le_induction with
  | base => exact Nat.le_refl _
  | succ year' _ ih =>
    obtain rfl | hpos := Nat.eq_zero_or_pos year'
    · exact ih
    · rw [daysBeforeYear_succ hpos]
      omega

theorem dayLimit_eq : dayLimit = daysBeforeYear 10000 := rfl

theorem daysBeforeMonth_eq_sum (year month : Nat) :
    daysBeforeMonth year month = ((monthLengths year).take (month - 1)).sum :=
  List.sum_eq_foldl.symm

theorem daysBeforeMonth_add {year month : Nat} (h : 0 < month) :
    daysBeforeMonth year month + daysInMonth year month =
      ((monthLengths year).take month).sum := by
  obtain ⟨passed, rfl⟩ := Nat.exists_eq_add_of_lt h
  rw [daysBeforeMonth_eq_sum, daysInMonth, if_neg (by omega)]
  simp only [Nat.zero_add, Nat.add_sub_cancel, List.take_add_one, List.sum_append,
    List.getD_eq_getElem?_getD]
  cases (monthLengths year)[passed]? <;> simp

theorem sum_take_le (lengths : List Nat) {months months' : Nat} (h : months ≤ months') :
    (lengths.take months).sum ≤ (lengths.take months').sum :=
  ((List.take_prefix_take_left h).sublist).sum_le_sum fun _ _ => Nat.zero_le _

theorem day_bounds (h : d.isValid = true) : 0 < d.month ∧ 1 ≤ d.day ∧
    d.day ≤ daysInMonth d.year d.month := by
  simp only [isValid, Bool.and_eq_true, decide_eq_true_eq] at h
  refine ⟨?_, h.1.2, h.2⟩
  by_contra hzero
  have hnone : daysInMonth d.year d.month = 0 := by
    rw [daysInMonth, if_pos (Nat.eq_zero_of_not_pos hzero)]
  omega

theorem toDays_bounds (h : d.isValid = true) :
    daysBeforeYear d.year ≤ d.toDays ∧ d.toDays < daysBeforeYear (d.year + 1) := by
  obtain ⟨hmonth, hfirst, hlast⟩ := day_bounds h
  have hyear : 0 < d.year := by
    simp only [isValid, Bool.and_eq_true, decide_eq_true_eq] at h
    exact h.1.1.1
  have hend := @daysBeforeMonth_add d.year _ hmonth
  have hsum := (List.take_sublist d.month (monthLengths d.year)).sum_le_sum fun _ _ => Nat.zero_le _
  rw [daysBeforeYear_succ hyear, toDays]
  omega

/-- Later dates have larger day numbers: across years, across months and within a month. -/
theorem toDays_lt_of_before (hd : d.isValid = true) (he : e.isValid = true) (h : d.Before e) :
    d.toDays < e.toDays := by
  obtain ⟨hdmonth, hdfirst, hdlast⟩ := day_bounds hd
  obtain ⟨hemonth, hefirst, -⟩ := day_bounds he
  rcases h with hyear | ⟨hyear, hmonth | ⟨hmonth, hday⟩⟩
  · calc d.toDays
        < daysBeforeYear (d.year + 1) := (toDays_bounds hd).2
      _ ≤ daysBeforeYear e.year := daysBeforeYear_mono hyear
      _ ≤ e.toDays := (toDays_bounds he).1
  · have hend := @daysBeforeMonth_add d.year _ hdmonth
    have hsum := sum_take_le (monthLengths d.year) (Nat.le_sub_one_of_lt hmonth)
    rw [← daysBeforeMonth_eq_sum, hyear] at hsum
    rw [hyear] at hend
    rw [toDays, toDays, hyear]
    rw [hyear] at hdlast
    omega
  · rw [toDays, toDays, hyear, hmonth]
    omega

theorem toDays_lt_iff (hd : d.isValid = true) (he : e.isValid = true) :
    d.toDays < e.toDays ↔ d.Before e := by
  refine ⟨fun h => ?_, toDays_lt_of_before hd he⟩
  rcases before_trichotomy d e with hbefore | rfl | hafter
  · exact hbefore
  · exact absurd h (Nat.lt_irrefl _)
  · exact absurd h (Nat.lt_asymm (toDays_lt_of_before he hd hafter))

theorem toDays_lt_dayLimit (h : d.isValid = true) : d.toDays < dayLimit := by
  have hyear := (bounds_of_isValid h).1
  exact (toDays_bounds h).2.trans_le (daysBeforeYear_mono (Nat.succ_le_succ hyear))

/-- A valid date is that of its day. -/
theorem ofDays_toDays (h : d.isValid = true) : ofDays d.toDays = d := by
  have hvalid := isValid_ofDays (toDays_lt_dayLimit h)
  have hdays := toDays_ofDays d.toDays
  rcases before_trichotomy (ofDays d.toDays) d with hbefore | heq | hafter
  · have hlt := toDays_lt_of_before hvalid h hbefore
    omega
  · exact heq
  · have hlt := toDays_lt_of_before h hvalid hafter
    omega

theorem eq_of_toDays_eq (hd : d.isValid = true) (he : e.isValid = true)
    (h : d.toDays = e.toDays) : d = e := by
  rw [← ofDays_toDays hd, h, ofDays_toDays he]

end Date

end UptimeAlert
