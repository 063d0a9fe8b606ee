import UptimeAlert.Proofs.Calendar.IsoText
import UptimeAlert.Proofs.Calendar.Week

namespace UptimeAlert

theorem Date.digits_of_isValid {d : Date} (h : d.isValid = true) :
    d.year < 10 ^ 4 ∧ d.month < 10 ^ 2 ∧ d.day < 10 ^ 2 := by
  have hbounds := bounds_of_isValid h
  omega

theorem Clock.digits_of_isValid {c : Clock} (h : c.isValid = true) :
    c.hour < 10 ^ 2 ∧ c.minute < 10 ^ 2 ∧ c.second < 10 ^ 2 ∧ c.micro < 10 ^ 6 := by
  simp only [isValid, Bool.and_eq_true, decide_eq_true_eq] at h
  omega

namespace Calendar

open UptimeAlert.Text

/-- A given number of digits. -/
structure DigitRun (count : Nat) where
  chars : List Char
  length_eq : chars.length = count
  isDigits : ∀ d ∈ chars, isDigit d = true

/-- Whether a text has a digit at its end. -/
def EndsInDigit (cs : List Char) : Prop :=
  ∃ init d, cs = init ++ [d] ∧ isDigit d = true

theorem EndsInDigit.append_left {cs : List Char} (h : EndsInDigit cs) (front : List Char) :
    EndsInDigit (front ++ cs) := by
  obtain ⟨init, d, rfl, hd⟩ := h
  exact ⟨front ++ init, d, (List.append_assoc _ _ _).symm, hd⟩

namespace DigitRun

def value {count : Nat} (run : DigitRun count) : Nat :=
  ofDigits run.chars

/-- The digits of a number that is not too long for them. -/
def ofNat {further n : Nat} (hn : n < 10 ^ (further + 1)) : DigitRun (further + 1) :=
  ⟨padded (further + 1) n, length_padded (Nat.succ_pos further) hn,
    fun _ => isDigit_of_mem_padded⟩

theorem value_ofNat {further n : Nat} (hn : n < 10 ^ (further + 1)) : (ofNat hn).value = n :=
  ofDigits_padded (Nat.succ_pos further) hn

theorem exists_cons {further : Nat} (run : DigitRun (further + 1)) :
    ∃ d ds, run.chars = d :: ds ∧ isDigit d = true := by
  obtain ⟨d, ds, hchars⟩ := List.exists_cons_of_length_eq_add_one run.length_eq
  exact ⟨d, ds, hchars, run.isDigits d (by simp [hchars])⟩

theorem endsInDigit {further : Nat} (run : DigitRun (further + 1)) : EndsInDigit run.chars := by
  have hne : run.chars ≠ [] := by
    intro hnil
    have hlength := run.length_eq
    simp [hnil] at hlength
  exact ⟨_, _, (List.dropLast_append_getLast hne).symm, run.isDigits _ (List.getLast_mem hne)⟩

theorem value_lt {count : Nat} (run : DigitRun count) : run.value < 10 ^ count := by
  have hlt := ofDigits_lt run.isDigits
  rwa [run.length_eq] at hlt

end DigitRun

def mark (c : Char) (extended : Bool) : List Char :=
  if extended then [c] else []

inductive DateForm where
  | byMonth (extended : Bool) (year : DigitRun 4) (month day : DigitRun 2)
  | byWeek (extended : Bool) (year : DigitRun 4) (week : DigitRun 2) (day : DigitRun 1)

namespace DateForm

def text : DateForm → List Char
  | byMonth extended year month day =>
    year.chars ++ mark '-' extended ++ month.chars ++ mark '-' extended ++ day.chars
  | byWeek extended year week day =>
    year.chars ++ mark '-' extended ++ 'W' :: week.chars ++ mark '-' extended ++ day.chars

theorem endsInDigit (f : DateForm) : EndsInDigit f.text := by
  cases f with
  | byMonth _ _ _ day => exact day.endsInDigit.append_left _
  | byWeek _ _ _ day => exact day.endsInDigit.append_left _

/-- Whether a written date is that of a date. -/
def Denotes : DateForm → Date → Prop
  | byMonth _ year month day, date => date = ⟨year.value, month.value, day.value⟩
  | byWeek _ year week day, date =>
    Date.IsWeekDate year.value week.value day.value date.toDays

/-- Whether a written date is that of a day in the years 1 to 9999. -/
def IsReal : DateForm → Prop
  | byMonth _ year month day => Date.isValid ⟨year.value, month.value, day.value⟩ = true
  | byWeek _ year week day =>
    ∃ days < Date.dayLimit, Date.IsWeekDate year.value week.value day.value days

/-- The bounds on the numbers of a date are those under which there is such a date. -/
theorem isReal_iff {f : DateForm} :
    f.IsReal ↔ ∃ date : Date, date.isValid = true ∧ f.Denotes date := by
  cases f with
  | byMonth extended year month day => simp [IsReal, Denotes]
  | byWeek extended year week day =>
    constructor
    · rintro ⟨days, hdays, hweek⟩
      have hsame := Date.toDays_ofDays days
      exact ⟨Date.ofDays days, Date.isValid_ofDays hdays, by rwa [Denotes, hsame]⟩
    · rintro ⟨date, hvalid, hweek⟩
      exact ⟨_, Date.toDays_lt_dayLimit hvalid, hweek⟩

def ofDate (extended : Bool) {date : Date} (h : date.isValid = true) : DateForm :=
  .byMonth extended (.ofNat (Date.digits_of_isValid h).1)
    (.ofNat (Date.digits_of_isValid h).2.1)
    (.ofNat (Date.digits_of_isValid h).2.2)

theorem ofDate_denotes_iff {extended : Bool} {date other : Date} (h : date.isValid = true) :
    (ofDate extended h).Denotes other ↔ other = date := by
  simp only [ofDate, Denotes, DigitRun.value_ofNat]

theorem text_ofDate {date : Date} (h : date.isValid = true) :
    (ofDate true h).text = date.isoText := by
  simp [ofDate, text, DigitRun.ofNat, mark, Date.isoText, WallTime.monthDayText]

/-- Every date can be written in both forms by week and weekday. -/
theorem exists_byWeek {date : Date} (h : date.isValid = true) (extended : Bool) :
    ∃ year week day, (byWeek extended year week day).Denotes date := by
  have hdays := Date.toDays_lt_dayLimit h
  obtain ⟨year, week, day, hweek⟩ := Date.exists_isWeekDate hdays
  have hyear := (hweek.year_bounds hdays).2
  obtain ⟨hlast, hday⟩ := hweek.week_bounds hdays
  refine ⟨.ofNat (n := year) (by omega), .ofNat (n := week) (by omega),
    .ofNat (n := day) (by omega), ?_⟩
  simpa only [Denotes, DigitRun.value_ofNat] using hweek

end DateForm

/-- A fraction of a second: a point or a comma and at least one digit. -/
structure Fraction where
  mark : Char
  isMark : mark = '.' ∨ mark = ','
  further : Nat
  digits : DigitRun (further + 1)

namespace Fraction

def text (f : Fraction) : List Char :=
  f.mark :: f.digits.chars

/-- The whole microseconds of a fraction; what is less than one is cut off. -/
def micro (f : Fraction) : Nat :=
  f.digits.value * 1000000 / 10 ^ (f.further + 1)

theorem micro_lt (f : Fraction) : f.micro < 1000000 := by
  refine Nat.div_lt_of_lt_mul ?_
  exact Nat.mul_lt_mul_of_pos_right f.digits.value_lt (by decide)

/-- The digits of a number behind a point. -/
def ofNat {further n : Nat} (hn : n < 10 ^ (further + 1)) : Fraction :=
  ⟨'.', .inl rfl, further, .ofNat hn⟩

theorem micro_ofNat {further n : Nat} (hn : n < 10 ^ (further + 1)) :
    (ofNat hn).micro = n * 1000000 / 10 ^ (further + 1) := by
  rw [ofNat, micro, DigitRun.value_ofNat]

theorem text_ofNat {further n : Nat} (hn : n < 10 ^ (further + 1)) :
    (ofNat hn).text = '.' :: padded (further + 1) n := rfl

end Fraction

inductive TimeForm where
  | hours (hour : DigitRun 2)
  | minutes (extended : Bool) (hour minute : DigitRun 2)
  | seconds (extended : Bool) (hour minute second : DigitRun 2) (fraction : Option Fraction)

namespace TimeForm

def text : TimeForm → List Char
  | hours hour => hour.chars
  | minutes extended hour minute => hour.chars ++ mark ':' extended ++ minute.chars
  | seconds extended hour minute second fraction =>
    hour.chars ++ mark ':' extended ++ minute.chars ++ mark ':' extended ++ second.chars ++
      (fraction.map Fraction.text).getD []

theorem endsInDigit (t : TimeForm) : EndsInDigit t.text := by
  cases t with
  | hours hour => exact hour.endsInDigit
  | minutes _ _ minute => exact minute.endsInDigit.append_left _
  | seconds _ _ _ second fraction =>
    cases fraction with
    | none =>
      rw [text, Option.map_none, Option.getD_none, List.append_nil]
      exact second.endsInDigit.append_left _
    | some f => exact (f.digits.endsInDigit.append_left [f.mark]).append_left _

/-- What a written time says, absent fields being zero. -/
def clock : TimeForm → Clock
  | hours hour => ⟨hour.value, 0, 0, 0⟩
  | minutes _ hour minute => ⟨hour.value, minute.value, 0, 0⟩
  | seconds _ hour minute second fraction =>
    ⟨hour.value, minute.value, second.value, (fraction.map Fraction.micro).getD 0⟩

/-- The form of a time of day, with its seconds where it is not to be short or has some, and its
microseconds where it has some. -/
def ofClock (short : Bool) {c : Clock} (h : c.isValid = true) : TimeForm :=
  if short && c.second = 0 && c.micro = 0 then
    .minutes true (.ofNat (Clock.digits_of_isValid h).1)
      (.ofNat (Clock.digits_of_isValid h).2.1)
  else
    .seconds true (.ofNat (Clock.digits_of_isValid h).1)
      (.ofNat (Clock.digits_of_isValid h).2.1)
      (.ofNat (Clock.digits_of_isValid h).2.2.1)
      (if c.micro = 0 then none
        else some (.ofNat (Clock.digits_of_isValid h).2.2.2))

theorem text_ofClock (short : Bool) {c : Clock} (h : c.isValid = true) :
    (ofClock short h).text = c.isoText short := by
  unfold ofClock Clock.isoText
  split_ifs <;> simp_all [text, Fraction.text_ofNat, DigitRun.ofNat, mark]

theorem clock_ofClock (short : Bool) {c : Clock} (h : c.isValid = true) :
    (ofClock short h).clock = c := by
  obtain ⟨hour, minute, second, micro⟩ := c
  have hmicro : micro * 1000000 / 10 ^ (5 + 1) = micro := Nat.mul_div_cancel _ (by decide)
  unfold ofClock
  by_cases hshort : (short && second = 0 && micro = 0) = true
  · obtain ⟨⟨-, rfl⟩, rfl⟩ : (short = true ∧ second = 0) ∧ micro = 0 := by simpa using hshort
    rw [if_pos hshort, clock, DigitRun.value_ofNat, DigitRun.value_ofNat]
  · rw [if_neg hshort, clock, DigitRun.value_ofNat, DigitRun.value_ofNat, DigitRun.value_ofNat]
    by_cases hwhole : micro = 0
    · rw [if_pos hwhole, hwhole]
      rfl
    · rw [if_neg hwhole, Option.map_some, Option.getD_some, Fraction.micro_ofNat, hmicro]

theorem isValid_clock_iff (t : TimeForm) :
    t.clock.isValid = true ↔ t.clock.hour ≤ 23 ∧ t.clock.minute ≤ 59 ∧ t.clock.second ≤ 59 := by
  have hmicro : t.clock.micro < 1000000 := by
    cases t with
    | hours => exact Nat.zero_lt_succ _
    | minutes => exact Nat.zero_lt_succ _
    | seconds _ _ _ _ fraction =>
      cases fraction with
      | none => exact Nat.zero_lt_succ _
      | some f => exact f.micro_lt
  simp only [Clock.isValid, Bool.and_eq_true, decide_eq_true_eq, Nat.lt_succ_iff]
  omega

end TimeForm

/-- A time of day that follows a date, after the letter T or a space. -/
structure TimePart where
  separator : Char
  isSeparator : separator = 'T' ∨ separator = ' '
  time : TimeForm

def TimePart.text (part : TimePart) : List Char :=
  part.separator :: part.time.text

structure Form where
  date : DateForm
  part : Option TimePart

namespace Form

def text (f : Form) : List Char :=
  f.date.text ++ (f.part.map TimePart.text).getD []

/-- The time of day that a form says, midnight where it says none. -/
def clock (f : Form) : Clock :=
  (f.part.map (·.time.clock)).getD ⟨0, 0, 0, 0⟩

theorem begins_with_digit (f : Form) : ∃ d rest, f.text = d :: rest ∧ isDigit d = true := by
  obtain ⟨date, part⟩ := f
  have hdate : ∃ (run : DigitRun 4) (rest : List Char), date.text = run.chars ++ rest := by
    cases date <;> simp only [DateForm.text, List.append_assoc] <;> exact ⟨_, _, rfl⟩
  obtain ⟨run, rest, hdate⟩ := hdate
  obtain ⟨d, ds, hrun, hd⟩ := run.exists_cons
  exact ⟨d, _, by rw [text, hdate, hrun]; rfl, hd⟩

theorem endsInDigit (f : Form) : EndsInDigit f.text := by
  obtain ⟨date, part⟩ := f
  cases part with
  | none =>
    rw [text, Option.map_none, Option.getD_none, List.append_nil]
    exact date.endsInDigit
  | some part => exact (part.time.endsInDigit.append_left [part.separator]).append_left date.text

theorem isValid_clock_iff (f : Form) :
    f.clock.isValid = true ↔ f.clock.hour ≤ 23 ∧ f.clock.minute ≤ 59 ∧ f.clock.second ≤ 59 := by
  obtain ⟨date, part⟩ := f
  cases part with
  | none => simp [clock, Clock.isValid]
  | some part => exact part.time.isValid_clock_iff

/-- Whether an instant is the one that a form says. -/
def Denotes (f : Form) (x : Instant) : Prop :=
  f.date.Denotes x.date ∧ x.clock = f.clock

end Form

end Calendar

end UptimeAlert
