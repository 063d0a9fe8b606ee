import UptimeAlert.Proofs.Calendar.Form
import UptimeAlert.Proofs.Calendar.Reader

namespace UptimeAlert.Calendar.Reader

open UptimeAlert.Text

variable {s : List UInt8} {p : Nat}

theorem Shows.length_le {cs : List Char} (h : Shows s p cs) (hp : p ≤ s.length) :
    p + cs.length ≤ s.length := by
  have hle := List.IsPrefix.length_le h
  rw [List.length_map, List.length_drop] at hle
  omega

theorem number?_run {count : Nat} {run : DigitRun count} (h : Shows s p run.chars) :
    number? s p count = some run.value := by
  have hread := number?_of_digits run.isDigits h
  rwa [run.length_eq] at hread

theorem isDigitByte_run {further : Nat} {run : DigitRun (further + 1)} (h : Shows s p run.chars) :
    isDigitByte (byteAt s p) = true := by
  obtain ⟨chars, hlength, hdigits⟩ := run
  cases chars with
  | nil => simp at hlength
  | cons d ds =>
    rw [h.byteAt]
    exact (isDigitByte_code (hdigits d List.mem_cons_self)).1

/-- No digit is one of the marks of a form. -/
theorem not_isDigitByte_mark :
    ∀ c ∈ ['-', ':', '.', ',', 'W', 'T', ' ', '+', 'Z'], isDigitByte (code c) = false :=
  List.all_iff_forall_prop.mp (by decide)

theorem ne_mark {b : UInt8} (hb : isDigitByte b = true) {c : Char}
    (hc : c ∈ ['-', ':', '.', ',', 'W', 'T', ' ', '+', 'Z']) : b ≠ code c := by
  rintro rfl
  rw [not_isDigitByte_mark c hc] at hb
  cases hb

/-- The digits from a place on are counted up to the first byte that is none. -/
theorem countDigits_run {ds : List Char} (hds : ∀ d ∈ ds, isDigit d = true) (h : Shows s p ds)
    (hend : isDigitByte (byteAt s (p + ds.length)) = false) :
    countDigits (s.drop p) = ds.length := by
  obtain ⟨rest, hrest⟩ := h
  have hall : ∀ b ∈ ds.map code, isDigitByte b = true := by
    intro b hb
    obtain ⟨d, hd, rfl⟩ := List.mem_map.mp hb
    exact (isDigitByte_code (hds d hd)).1
  have hdrop : s.drop (p + ds.length) = rest := by
    rw [← List.drop_drop, ← hrest, List.drop_left' (List.length_map code)]
  have hnone := countDigits_drop hend
  rw [hdrop, countDigits] at hnone
  rw [← hrest, countDigits, List.takeWhile_append_of_pos hall, List.length_append, List.length_map,
    hnone, Nat.add_zero]

section Date

theorem days_eq_some_iff {d : Date} {days : Nat} :
    (if d.isValid then some d.toDays else none) = some days ↔
      ∃ date : Date, date.isValid = true ∧ date = d ∧ date.toDays = days := by
  by_cases h : d.isValid = true <;> simp [h]

theorem weekDays_eq_some_iff {year week day days : Nat} :
    Date.ofWeek? year week day = some days ↔ ∃ date : Date, date.isValid = true ∧
      Date.IsWeekDate year week day date.toDays ∧ date.toDays = days := by
  rw [Date.ofWeek?_eq_some_iff]
  constructor
  · rintro ⟨hweek, hdays⟩
    have hsame := Date.toDays_ofDays days
    exact ⟨Date.ofDays days, Date.isValid_ofDays hdays, hsame.symm ▸ hweek, hsame⟩
  · rintro ⟨date, hvalid, hweek, rfl⟩
    exact ⟨hweek, Date.toDays_lt_dayLimit hvalid⟩

/-- A date by month and day is found to its end, and is read as what the calendar says. -/
theorem date?_byMonth {extended : Bool} {year : DigitRun 4} {month day : DigitRun 2}
    (h : Shows s 0 (DateForm.byMonth extended year month day).text) :
    dateEnd? s = some (DateForm.byMonth extended year month day).text.length ∧
    ∀ days, date? s (DateForm.byMonth extended year month day).text.length = some days ↔
      ∃ date : Date, date.isValid = true ∧ date = ⟨year.value, month.value, day.value⟩ ∧
        date.toDays = days := by
  have hlong := h.length_le (Nat.zero_le _)
  cases extended with
  | true =>
    simp only [DateForm.text, mark, if_true, shows_append, List.length_append, year.length_eq,
      month.length_eq, day.length_eq, List.length_singleton, Nat.reduceAdd] at h hlong ⊢
    obtain ⟨⟨⟨⟨hyear, hfirst⟩, hmonth⟩, hsecond⟩, hday⟩ := h
    have hweek := ne_mark (isDigitByte_run hmonth) (c := 'W') (by decide)
    have hlong' : ¬ s.length < 7 ∧ s.length ≠ 7 := by omega
    refine ⟨by simp [dateEnd?, hlong', hfirst.byteAt, hweek], fun days => ?_⟩
    simp only [date?, calendarDate?, skipHyphen?, number?_run hyear, number?_run hmonth,
      number?_run hday, hfirst.byteAt, hsecond.byteAt, hweek, Option.bind_eq_bind,
      Option.bind_some, decide_true, if_true, if_false, Bool.not_true, Bool.false_eq_true,
      Nat.reduceAdd]
    exact days_eq_some_iff
  | false =>
    simp only [DateForm.text, mark, Bool.false_eq_true, if_false, List.append_nil, shows_append,
      List.length_append, year.length_eq, month.length_eq, day.length_eq, Nat.reduceAdd]
      at h hlong ⊢
    obtain ⟨⟨hyear, hmonth⟩, hday⟩ := h
    have hplain := ne_mark (isDigitByte_run hmonth) (c := '-') (by decide)
    have hweek := ne_mark (isDigitByte_run hmonth) (c := 'W') (by decide)
    have hlong' : ¬ s.length < 7 ∧ s.length ≠ 7 := by omega
    refine ⟨by simp [dateEnd?, hlong', hplain, hweek], fun days => ?_⟩
    simp only [date?, calendarDate?, skipHyphen?, number?_run hyear, number?_run hmonth,
      number?_run hday, hplain, hweek, Option.bind_eq_bind, Option.bind_some, decide_false,
      if_true, if_false, Bool.not_false, Nat.reduceAdd]
    exact days_eq_some_iff

/-- A date by week and weekday, likewise, if no digit follows. -/
theorem date?_byWeek {extended : Bool} {year : DigitRun 4} {week : DigitRun 2} {day : DigitRun 1}
    (h : Shows s 0 (DateForm.byWeek extended year week day).text)
    (hend : isDigitByte (byteAt s (DateForm.byWeek extended year week day).text.length) = false) :
    dateEnd? s = some (DateForm.byWeek extended year week day).text.length ∧
    ∀ days, date? s (DateForm.byWeek extended year week day).text.length = some days ↔
      ∃ date : Date, date.isValid = true ∧
        Date.IsWeekDate year.value week.value day.value date.toDays ∧ date.toDays = days := by
  have hlong := h.length_le (Nat.zero_le _)
  cases extended with
  | true =>
    simp only [DateForm.text, mark, if_true, shows_append, List.length_append, year.length_eq,
      week.length_eq, day.length_eq, List.length_cons, List.length_nil, Nat.reduceAdd]
      at h hlong hend ⊢
    obtain ⟨⟨⟨⟨hyear, hfirst⟩, hweek⟩, hsecond⟩, hday⟩ := h
    have hlong' : ¬ s.length < 7 ∧ s.length ≠ 7 ∧ 8 < s.length ∧ s.length ≠ 9 := by omega
    refine ⟨by simp [dateEnd?, hlong', hfirst.byteAt, hweek.byteAt, hsecond.byteAt, hend],
      fun days => ?_⟩
    simp only [date?, weekDate?, skipHyphen?, number?_run hyear, number?_run hweek.tail,
      number?_run hday, hfirst.byteAt, hweek.byteAt, hsecond.byteAt, Option.bind_eq_bind,
      Option.bind_some, decide_true, if_true, Bool.not_true, Bool.false_eq_true, if_false,
      Nat.reduceAdd, Nat.reduceLT]
    exact weekDays_eq_some_iff
  | false =>
    simp only [DateForm.text, mark, Bool.false_eq_true, if_false, List.append_nil, shows_append,
      List.length_append, year.length_eq, week.length_eq, day.length_eq, List.length_cons,
      Nat.reduceAdd] at h hlong hend ⊢
    obtain ⟨⟨hyear, hweek⟩, hday⟩ := h
    have hplain : code 'W' ≠ code '-' := by decide
    have hlong' : ¬ s.length < 7 ∧ s.length ≠ 7 := by omega
    have hcount := countDigits_run day.isDigits hday (day.length_eq.symm ▸ hend)
    rw [day.length_eq] at hcount
    refine ⟨by simp [dateEnd?, hlong', hweek.byteAt, hplain, hcount], fun days => ?_⟩
    simp only [date?, weekDate?, skipHyphen?, number?_run hyear, number?_run hweek.tail,
      number?_run hday, hweek.byteAt, hplain, Option.bind_eq_bind, Option.bind_some, decide_false,
      if_true, Bool.not_false, if_false, Nat.reduceAdd, Nat.reduceLT]
    exact weekDays_eq_some_iff

/-- A written date ends before whatever is no digit, and is read as the date that it denotes. -/
theorem date?_form {f : DateForm} (h : Shows s 0 f.text)
    (hend : isDigitByte (byteAt s f.text.length) = false) :
    dateEnd? s = some f.text.length ∧ ∀ days, date? s f.text.length = some days ↔
      ∃ date : Date, date.isValid = true ∧ f.Denotes date ∧ date.toDays = days := by
  cases f with
  | byMonth => exact date?_byMonth h
  | byWeek => exact date?_byWeek h hend

end Date

theorem drop_eq_of_shows {cs : List Char} (h : Shows s p cs) (hlen : s.length = p + cs.length) :
    s.drop p = cs.map code := by
  refine (List.IsPrefix.eq_of_length h ?_).symm
  rw [List.length_map, List.length_drop]
  omega

section Clock

variable {stop : Nat}

/-- The first six digits, filled up with zeros, are the number of all digits cut to six. -/
theorem ofDigits_take_six {ds : List Char} (hds : ∀ d ∈ ds, isDigit d = true) :
    ofDigits (ds.take (min 6 ds.length)) * 10 ^ (6 - min 6 ds.length) =
      ofDigits ds * 1000000 / 10 ^ ds.length := by
  rcases Nat.le_total ds.length 6 with hshort | hlong
  · rw [Nat.min_eq_right hshort, List.take_length]
    have hsix : 1000000 = 10 ^ (6 - ds.length) * 10 ^ ds.length := by
      rw [← Nat.pow_add, Nat.sub_add_cancel hshort]
    rw [hsix, ← Nat.mul_assoc, Nat.mul_div_cancel _ (Nat.pow_pos (by decide))]
  · rw [Nat.min_eq_left hlong, Nat.sub_self, Nat.pow_zero, Nat.mul_one]
    have hsplit := ofDigits_append (ds.take 6) (ds.drop 6)
    rw [List.take_append_drop] at hsplit
    have hcut : ofDigits (ds.drop 6) < 10 ^ (ds.drop 6).length :=
      ofDigits_lt fun d hd => hds d (List.mem_of_mem_drop hd)
    have hpow : 10 ^ ds.length = 1000000 * 10 ^ (ds.drop 6).length := by
      rw [List.length_drop, ← Nat.pow_add 10 6, Nat.add_sub_cancel' hlong]
    rw [hpow, Nat.mul_comm, Nat.mul_div_mul_left _ _ (by decide), hsplit, Nat.add_comm,
      Nat.add_mul_div_right _ _ (Nat.pow_pos (by decide)), Nat.div_eq_of_lt hcut, Nat.zero_add]

/-- A fraction is read to the end of its digits, with something left over if a byte follows. -/
theorem fraction?_of_digits {ds : List Char} (hds : ∀ d ∈ ds, isDigit d = true)
    (h : Shows s p ds) (hstop : stop = p + ds.length)
    (hend : isDigitByte (byteAt s stop) = false) :
    fraction? s p stop =
      some (ofDigits ds * 1000000 / 10 ^ ds.length, byteAt s stop != 0) := by
  have hcount : min 6 (stop - p) = min 6 ds.length := by omega
  -- Six digits at most are read as a number, the others are passed over.
  have hparts := h
  rw [← List.take_append_drop (min 6 ds.length) ds, shows_append, List.length_take_of_le
    (Nat.min_le_right _ _)] at hparts
  have hfirst := number?_of_digits (fun d hd => hds d (List.mem_of_mem_take hd)) hparts.1
  rw [List.length_take_of_le (Nat.min_le_right _ _)] at hfirst
  have hlast : p + min 6 ds.length + (ds.drop (min 6 ds.length)).length = stop := by
    rw [List.length_drop]
    omega
  have hrest : countDigits (s.drop (p + min 6 ds.length)) =
      (ds.drop (min 6 ds.length)).length :=
    countDigits_run (fun d hd => hds d (List.mem_of_mem_drop hd)) hparts.2 (hlast.symm ▸ hend)
  simp only [fraction?, hcount, hfirst, hrest, hlast, Option.bind_eq_bind, Option.bind_some]
  exact congrArg (fun micro => some (micro, byteAt s stop != 0)) (ofDigits_take_six hds)

theorem fraction?_form {f : Fraction} (h : Shows s p f.digits.chars)
    (hstop : stop = p + (f.further + 1)) (hend : isDigitByte (byteAt s stop) = false) :
    fraction? s p stop = some (f.micro, byteAt s stop != 0) := by
  have hlength := f.digits.length_eq
  rw [fraction?_of_digits f.digits.isDigits h (by omega) hend, hlength]
  rfl

/-- After a pair of digits comes the next one, behind a colon in the extended form. -/
theorem exists_pair (stop : Nat) {extended : Bool} {run : DigitRun 2} {rest : List Char}
    (h : Shows s p (mark ':' extended ++ (run.chars ++ rest))) (hstop : p + 2 ≤ stop) :
    ∃ q, q = p + (mark ':' extended).length ∧ decide (byteAt s p = code ':') = extended ∧
      follow? s stop extended p = some (.pair q) ∧ number? s q 2 = some run.value ∧
      Shows s (q + 2) rest := by
  obtain ⟨hmark, hnext⟩ := shows_append.mp h
  obtain ⟨hrun, hrest⟩ := shows_append.mp hnext
  rw [run.length_eq] at hrest
  refine ⟨_, rfl, ?_, ?_, number?_run hrun, hrest⟩
  · cases extended with
    | true => exact decide_eq_true h.byteAt
    | false => exact decide_eq_false (ne_mark (isDigitByte_run hrun) (by decide))
  · cases extended with
    | true => exact follow?_pair (by omega) h.byteAt
    | false =>
      have hmore : ¬ stop ≤ p + 1 := by omega
      have hpoint := ne_mark (isDigitByte_run hrun) (c := '.') (by decide)
      have hcomma := ne_mark (isDigitByte_run hrun) (c := ',') (by decide)
      simp_all [follow?, mark]

/-- What follows the seconds is read to the end: nothing, or a fraction in digits. -/
theorem exists_finish {fraction : Option Fraction} (colons : Bool)
    (h : Shows s p ((fraction.map Fraction.text).getD []))
    (hstop : stop = p + ((fraction.map Fraction.text).getD []).length)
    (hend : isDigitByte (byteAt s stop) = false) :
    ∃ last, follow? s stop colons p = some last ∧
      finish? s stop last =
        some ((fraction.map Fraction.micro).getD 0, byteAt s stop != 0) := by
  cases fraction with
  | none =>
    obtain rfl : stop = p := hstop
    exact ⟨_, follow?_done colons (Nat.le_succ stop), rfl⟩
  | some f =>
    have hdigits := f.digits.length_eq
    simp only [Option.map_some, Option.getD_some, Fraction.text, List.length_cons] at h hstop
    exact ⟨_, follow?_fraction colons (by omega) h.byteAt f.isMark,
      fraction?_form h.tail (by omega) hend⟩

/-- A time of day that ends before whatever is no digit is read as it says, with something left over
if a byte follows. -/
theorem clock?_form {t : TimeForm} (h : Shows s p t.text) (hstop : stop = p + t.text.length)
    (hend : isDigitByte (byteAt s stop) = false) :
    clock? s p stop = some (t.clock, byteAt s stop != 0) := by
  cases t with
  | hours hour =>
    rw [TimeForm.text, hour.length_eq] at hstop
    subst hstop
    have hdone := follow?_done (s := s) (byteAt s (p + 2) = code ':') (Nat.le_succ (p + 2))
    simp [clock?, finish?, number?_run h, hdone, TimeForm.clock]
  | minutes extended hour minute =>
    rw [TimeForm.text, List.append_assoc] at h hstop
    obtain ⟨hhour, hnext⟩ := shows_append.mp h
    simp only [List.length_append, hour.length_eq, minute.length_eq] at hstop hnext
    rw [← List.append_nil minute.chars] at hnext
    obtain ⟨q, hq, hcolons, hpair, hminute, -⟩ := exists_pair stop hnext (by omega)
    obtain rfl : stop = q + 2 := by omega
    have hdone := follow?_done (s := s) extended (Nat.le_succ (q + 2))
    simp [clock?, finish?, number?_run hhour, hcolons, hpair, hminute, hdone, TimeForm.clock]
  | seconds extended hour minute second fraction =>
    simp only [TimeForm.text, List.append_assoc] at h hstop
    obtain ⟨hhour, hnext⟩ := shows_append.mp h
    simp only [List.length_append, hour.length_eq, minute.length_eq, second.length_eq]
      at hstop hnext
    obtain ⟨q, hq, hcolons, hpair, hminute, hnext'⟩ := exists_pair stop hnext (by omega)
    obtain ⟨r, hr, -, hpair', hsecond, hrest⟩ := exists_pair stop hnext' (by omega)
    obtain ⟨last, hlast, hfinish⟩ := exists_finish extended hrest (by omega) hend
    simp [clock?, number?_run hhour, hcolons, hpair, hminute, hpair', hsecond, hlast, hfinish,
      TimeForm.clock]

theorem clock?_form_end {t : TimeForm} (h : Shows s p t.text)
    (hlen : s.length = p + t.text.length) : clock? s p s.length = some (t.clock, false) := by
  have hzero : byteAt s s.length = 0 := byteAt_past (Nat.le_refl _)
  have hend : isDigitByte (byteAt s s.length) = false := by
    rw [hzero]
    decide
  rw [clock?_form h hlen hend, hzero]
  rfl

/-- A kept offset is read back from its text; one of less than a second would be lost. -/
theorem offset?_isoText {o : Offset} (hkept : o.IsKept) (h : Shows s p o.isoText)
    (hlen : s.length = p + o.isoText.length) : offset? s p = some o := by
  rw [Offset.isoText_eq, ← TimeForm.text_ofClock true o.isValid_clock] at h hlen
  have hclock : clock? s (p + 1) s.length = some (o.clock, false) := by
    rw [clock?_form_end h.tail (by rw [hlen, List.length_cons]; omega), TimeForm.clock_ofClock]
  have hother : code o.sign ≠ code 'Z' := by
    unfold Offset.sign
    split <;> decide
  have hminus : code o.sign = code '-' ↔ o.micros < 0 := by
    have hdiffer : code '+' ≠ code '-' := by decide
    by_cases hneg : o.micros < 0 <;> simp [Offset.sign, hneg, hdiffer]
  have hwhole : o.clock.toMicros = 0 ∨ 1000000 ≤ o.clock.toMicros := by
    rw [o.toMicros_clock, Int.natAbs_eq_zero]
    exact hkept
  rw [offset?_of_clock h.byteAt hother hclock, offsetOf?_eq hwhole, ← o.ofMicros?_clock]
  simp only [decide_eq_true_eq, hminus]

theorem run_subset {count : Nat} (run : DigitRun count) : run.chars ⊆ digits :=
  fun _ hd => mem_digits (run.isDigits _ hd)

theorem mark_subset {c : Char} {cs : List Char} (hc : c ∈ cs) (extended : Bool) :
    mark c extended ⊆ cs := by
  cases extended <;> simp [mark, hc]

def timeChars : List Char :=
  digits ++ [':', '.', ',']

theorem timeText_subset (t : TimeForm) : t.text ⊆ timeChars := by
  have hrun {count : Nat} (run : DigitRun count) : run.chars ⊆ timeChars :=
    List.Subset.trans (run_subset run) (List.subset_append_left _ _)
  have hmark (extended : Bool) : mark ':' extended ⊆ timeChars := mark_subset (by decide) extended
  cases t with
  | hours => exact hrun _
  | minutes => simp only [TimeForm.text, List.append_subset, hrun, hmark, and_self]
  | seconds _ _ _ _ fraction =>
    have hfraction : (fraction.map Fraction.text).getD [] ⊆ timeChars := by
      cases fraction with
      | none => exact List.nil_subset _
      | some f =>
        have hc : f.mark ∈ timeChars := by
          rcases f.isMark with h | h <;> rw [h] <;> decide
        exact List.cons_subset.mpr ⟨hc, hrun _⟩
    simp only [TimeForm.text, List.append_subset, hrun, hmark, hfraction, and_self]

theorem opensOffset_sign (o : Offset) :
    opensOffset (code o.sign) = true ∧ isDigitByte (code o.sign) = false := by
  unfold Offset.sign
  split <;> decide

/-- A time of day and the offset behind it, if there is one, are read as they say. -/
theorem time?_form {t : TimeForm} {offset : Option Offset} (hkept : ∀ o ∈ offset, o.IsKept)
    (hp : p ≤ s.length)
    (hs : s.drop p = (t.text ++ (offset.map Offset.isoText).getD []).map code) :
    time? s p = some (t.clock, offset) := by
  have hshows : Shows s p (t.text ++ (offset.map Offset.isoText).getD []) := ⟨[], by simp [hs]⟩
  obtain ⟨hclock, hoffset⟩ := shows_append.mp hshows
  have hlen : s.length = p + t.text.length + ((offset.map Offset.isoText).getD []).length := by
    have hdrop := congrArg List.length hs
    rw [List.length_drop, List.length_map, List.length_append] at hdrop
    omega
  have hclosed : ∀ c ∈ timeChars, (!opensOffset (code c)) = true :=
    List.all_iff_forall_prop.mp (by decide)
  have hall : ∀ b ∈ t.text.map code, (!opensOffset b) = true := by
    intro b hb
    obtain ⟨c, hc, rfl⟩ := List.mem_map.mp hb
    exact hclosed c (timeText_subset t hc)
  unfold time?
  rw [hs, List.map_append, List.takeWhile_append_of_pos hall]
  cases offset with
  | none =>
    have hstop : s.length = p + t.text.length := hlen
    simp [← hstop, clock?_form_end hclock hstop]
  | some o =>
    simp only [Option.map_some, Option.getD_some, Offset.isoText_eq] at hoffset hlen ⊢
    have hsign := opensOffset_sign o
    have hread := clock?_form hclock rfl (by rw [hoffset.byteAt, hsign.2])
    have hmore : p + t.text.length ≠ s.length := by
      rw [hlen, List.length_cons]
      omega
    rw [← Offset.isoText_eq] at hoffset hlen
    simp [hsign.1, hread, hmore, offset?_isoText (hkept o rfl) hoffset hlen]

end Clock

theorem dateText_subset (f : DateForm) : f.text ⊆ digits ++ ['-', 'W'] := by
  have hrun {count : Nat} (run : DigitRun count) : run.chars ⊆ digits ++ ['-', 'W'] :=
    List.Subset.trans (run_subset run) (List.subset_append_left _ _)
  have hmark (extended : Bool) : mark '-' extended ⊆ digits ++ ['-', 'W'] :=
    mark_subset (by decide) extended
  have hweek : 'W' ∈ digits ++ ['-', 'W'] := by decide
  cases f <;> simp only [DateForm.text, List.append_subset, List.cons_subset, hrun, hmark, hweek,
    and_self]

theorem isAscii_form (f : Form) : ∀ c ∈ f.text, c.toNat < 128 := by
  have hdate : ∀ c ∈ digits ++ ['-', 'W'], c.toNat < 128 :=
    List.all_iff_forall_prop.mp (by decide)
  have htime : ∀ c ∈ timeChars, c.toNat < 128 := List.all_iff_forall_prop.mp (by decide)
  intro c hc
  rcases List.mem_append.mp hc with hc | hc
  · exact hdate c (dateText_subset _ hc)
  · cases hpart : f.part with
    | none => simp [hpart] at hc
    | some part =>
      simp only [hpart, Option.map_some, Option.getD_some, TimePart.text, List.mem_cons] at hc
      rcases hc with rfl | hc
      · rcases part.isSeparator with h | h <;> rw [h] <;> decide
      · exact htime c (timeText_subset _ hc)

/-- Reading a date-time with a time of day comes down to its date. -/
theorem readBytes?_part {date : DateForm} {part : TimePart} {offset : Option Offset}
    (hkept : ∀ o ∈ offset, o.IsKept)
    (hs : s = (date.text ++ part.text ++ (offset.map Offset.isoText).getD []).map code) :
    (∀ days, date? s date.text.length = some days ↔
      ∃ d : Date, d.isValid = true ∧ date.Denotes d ∧ d.toDays = days) ∧
    readBytes? s = (date? s date.text.length).bind fun days =>
      (WallTime.ofDay? days part.time.clock).bind fun wall => some ⟨wall, offset⟩ := by
  have hshows : Shows s 0 (date.text ++ part.text ++ (offset.map Offset.isoText).getD []) :=
    hs ▸ List.prefix_rfl
  rw [List.append_assoc, shows_append, Nat.zero_add, TimePart.text, List.cons_append] at hshows
  obtain ⟨hdate, hpart⟩ := hshows
  have hlen : s.length = date.text.length + 1 +
      (part.time.text ++ (offset.map Offset.isoText).getD []).length := by
    rw [hs]
    simp only [List.length_map, List.length_append, TimePart.text, List.length_cons]
    omega
  have hseparator : isDigitByte (code part.separator) = false ∧
      widthAt (code part.separator) = 1 := by
    rcases part.isSeparator with h | h <;> rw [h] <;> decide
  have hend : isDigitByte (byteAt s date.text.length) = false := by
    rw [hpart.byteAt, hseparator.1]
  have hrest := drop_eq_of_shows hpart.tail hlen
  have hmore : ¬ s.length ≤ date.text.length := by omega
  obtain ⟨hstop, hdays⟩ := date?_form hdate hend
  refine ⟨hdays, ?_⟩
  simp [readBytes?, hstop, hmore, hpart.byteAt, hseparator.2, time?_form hkept (by omega) hrest]

/-- Reading a written form comes down to its date, its time of day being certain. -/
theorem readBytes?_form_eq {f : Form} (hs : s = f.text.map code) :
    (∀ days, date? s f.date.text.length = some days ↔
      ∃ date : Date, date.isValid = true ∧ f.date.Denotes date ∧ date.toDays = days) ∧
    readBytes? s = (date? s f.date.text.length).bind fun days =>
      (WallTime.ofDay? days f.clock).bind fun wall => some ⟨wall, none⟩ := by
  obtain ⟨date, part⟩ := f
  cases part with
  | none =>
    rw [Form.text, Option.map_none, Option.getD_none, List.append_nil] at hs
    have hshows : Shows s 0 date.text := hs ▸ List.prefix_rfl
    have hlast : s.length = date.text.length := by rw [hs, List.length_map]
    have hend : isDigitByte (byteAt s date.text.length) = false := by
      rw [byteAt_past (Nat.le_of_eq hlast)]
      decide
    obtain ⟨hstop, hdays⟩ := date?_form hshows hend
    refine ⟨hdays, ?_⟩
    simp [readBytes?, hstop, hlast, Form.clock]
  | some part =>
    have hs' : s = (date.text ++ part.text ++
        ((none : Option Offset).map Offset.isoText).getD []).map code := by
      simpa [Form.text] using hs
    exact readBytes?_part (fun o ho => absurd ho (Option.not_mem_none o)) hs'

/-- A written form is read as the moment that it denotes, of no known offset. -/
theorem read?_form {f : Form} {m : Moment} :
    read? f.text = some m ↔ m.offset = none ∧ f.Denotes m.wall := by
  have hencode : Utf8.encode f.text = f.text.map code := Utf8.encode_ascii (isAscii_form f)
  obtain ⟨hdays, hread⟩ := readBytes?_form_eq (f := f) rfl
  rw [read?, hencode, hread]
  simp only [Option.bind_eq_some_iff, WallTime.ofDay?_eq_some_iff, hdays, Option.some.injEq]
  constructor
  · rintro ⟨days, ⟨date, hvalid, hdate, rfl⟩, wall, ⟨-, hsame, hclock⟩, rfl⟩
    obtain rfl := Date.eq_of_toDays_eq wall.isValid_date hvalid hsame
    exact ⟨rfl, hdate, hclock⟩
  · obtain ⟨wall, offset⟩ := m
    rintro ⟨rfl, hdate, hclock⟩
    exact ⟨_, ⟨wall.date, wall.isValid_date, hdate, rfl⟩, wall,
      ⟨hclock ▸ wall.isValid_clock, rfl, hclock⟩, rfl⟩

/-- A date-time is the one that its interchange form reads as, if its offset is kept. -/
theorem read?_isoText {m : Moment} (hkept : m.IsKept) : read? m.isoText = some m := by
  have hdate := m.wall.isValid_date
  have hclock := m.wall.isValid_clock
  have hencode : Utf8.encode m.isoText = m.isoText.map code := m.encode_isoText
  have htext : m.isoText = (DateForm.ofDate true hdate).text ++
      TimePart.text ⟨'T', .inl rfl, .ofClock false hclock⟩ ++ m.offsetText := by
    rw [Moment.isoText_eq, DateForm.text_ofDate, TimePart.text, TimeForm.text_ofClock]
    simp
  obtain ⟨hdays, hread⟩ := readBytes?_part hkept (congrArg (List.map code) htext)
  have hday := (hdays _).mpr ⟨m.wall.date, hdate, (DateForm.ofDate_denotes_iff hdate).mpr rfl, rfl⟩
  rw [read?, hencode, hread, hday, Option.bind_some, TimeForm.clock_ofClock,
    m.wall.ofDay?_date_clock, Option.bind_some]

end UptimeAlert.Calendar.Reader
