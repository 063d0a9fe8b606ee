import Mathlib.Data.List.Forall2
import UptimeAlert.Proofs.Calendar.Extension
import UptimeAlert.Proofs.Text.Order

namespace UptimeAlert

open UptimeAlert.Calendar
open UptimeAlert.Text

/-- Whether a text has a shape, in which the letter d stands for a digit and anything else for
itself. -/
def Fits (shape cs : List Char) : Prop :=
  List.Forall₂ (fun p c => if p = 'd' then isDigit c = true else c = p) shape cs

theorem Fits.cons {c : Char} {shape cs : List Char} (hc : c ≠ 'd') (h : Fits shape cs) :
    Fits (c :: shape) (c :: cs) :=
  List.Forall₂.cons (by rw [if_neg hc]) h

theorem Fits.append {shape shape' cs cs' : List Char} (h : Fits shape cs) (h' : Fits shape' cs') :
    Fits (shape ++ shape') (cs ++ cs') :=
  List.rel_append h h'

theorem fits_digits {cs : List Char} (h : ∀ c ∈ cs, isDigit c = true) :
    Fits (List.replicate cs.length 'd') cs := by
  induction cs with
  | nil => exact List.Forall₂.nil
  | cons c cs ih =>
    refine List.Forall₂.cons (h c List.mem_cons_self) (ih ?_)
    exact fun c hc => h c (List.mem_cons_of_mem _ hc)

theorem fits_padded {width n : Nat} (hw : 0 < width) (hn : n < 10 ^ width) :
    Fits (List.replicate width 'd') (padded width n) := by
  have hdigits : ∀ c ∈ padded width n, isDigit c = true := fun _ => isDigit_of_mem_padded
  have hfits := fits_digits hdigits
  rwa [length_padded hw hn] at hfits

/-- A text that begins with a year of less than four digits is not read as a date-time. -/
theorem Calendar.Reader.read?_short_year {ds rest : List Char} (hds : ∀ d ∈ ds, isDigit d = true)
    (hlength : ds.length < 4) : read? (ds ++ '-' :: rest) = none := by
  have hencode : Utf8.encode (ds ++ '-' :: rest) = ds.map code ++ code '-' :: Utf8.encode rest := by
    have hdigits : Utf8.encode ds = ds.map code :=
      Utf8.encode_ascii fun d hd => forall_digits (p := (·.toNat < 128)) (by decide) (hds d hd)
    rw [Utf8.encode, List.flatMap_append]
    exact congrArg (· ++ _) hdigits
  -- The hyphen stands where one of the four digits is read.
  have hbyte : byteAt (Utf8.encode (ds ++ '-' :: rest)) (0 + ds.length) = code '-' := by
    simp [hencode, byteAt, List.getD_eq_getElem?_getD]
  have hyear : number? (Utf8.encode (ds ++ '-' :: rest)) 0 4 = none := by
    rw [Option.eq_none_iff_forall_ne_some]
    intro n hn
    have hdigit := isDigitByte_of_number? hn hlength
    rw [hbyte] at hdigit
    exact absurd hdigit (by decide)
  rw [read?, readBytes?]
  cases dateEnd? (Utf8.encode (ds ++ '-' :: rest)) <;> simp [date?, hyear]

namespace WallTime

/-- The shape of a reading of a year with four digits, down to milliseconds. -/
def stampShape : List Char :=
  "dddd-dd-dd dd:dd:dd.ddd".toList

variable {w w' : WallTime}

/-- A reading without what is less than a millisecond. -/
def wholeMillis (w : WallTime) : WallTime :=
  ⟨w.micros / 1000 * 1000, Nat.lt_of_le_of_lt (Nat.div_mul_le_self _ _) w.inRange⟩

theorem date_wholeMillis (w : WallTime) : w.wholeMillis.date = w.date := by
  have hday : w.micros / 1000 * 1000 / dayMicros = w.micros / dayMicros := by
    rw [dayMicros]
    omega
  rw [date, wholeMillis, hday, date]

theorem clock_wholeMillis (w : WallTime) : w.wholeMillis.clock =
    ⟨w.clock.hour, w.clock.minute, w.clock.second, w.clock.micro / 1000 * 1000⟩ := by
  have htime : w.micros / 1000 * 1000 % dayMicros = w.micros % dayMicros / 1000 * 1000 := by
    rw [dayMicros]
    omega
  simp only [clock, wholeMillis, htime, Clock.ofMicros, Clock.mk.injEq]
  omega

theorem ext_date_clock (hdate : w.date = w'.date) (hclock : w.clock = w'.clock) : w = w' := by
  have hw := w.ofDay?_date_clock
  rw [hdate, hclock, w'.ofDay?_date_clock] at hw
  exact (Option.some.inj hw).symm

theorem millis_lt (w : WallTime) : w.clock.micro / 1000 < 10 ^ 3 := by
  have hclock := w.isValid_clock
  simp only [Clock.isValid, Bool.and_eq_true, decide_eq_true_eq] at hclock
  omega

def timeForm (w : WallTime) : TimeForm :=
  .seconds true (.ofNat (Clock.digits_of_isValid w.isValid_clock).1)
    (.ofNat (Clock.digits_of_isValid w.isValid_clock).2.1)
    (.ofNat (Clock.digits_of_isValid w.isValid_clock).2.2.1)
    (some (.ofNat w.millis_lt))

theorem clock_timeForm (w : WallTime) : w.timeForm.clock = w.wholeMillis.clock := by
  have hmicro : w.clock.micro / 1000 * 1000000 / 10 ^ 3 = w.clock.micro / 1000 * 1000 := by omega
  rw [clock_wholeMillis, timeForm, TimeForm.clock, Option.map_some, Option.getD_some,
    Fraction.micro_ofNat, hmicro]
  simp only [DigitRun.value_ofNat]

def form (w : WallTime) : Form where
  date := .ofDate true w.isValid_date
  part := some ⟨' ', .inr rfl, w.timeForm⟩

theorem text_form (w : WallTime) : w.form.text =
    w.date.isoText ++ ' ' :: clockText w.clock ++ '.' :: padded 3 (w.clock.micro / 1000) := by
  simp [form, timeForm, Form.text, DateForm.text_ofDate, TimePart.text, TimeForm.text,
    Fraction.text_ofNat, DigitRun.ofNat, mark, clockText]

theorem timestamp_eq (h : 1000 ≤ w.date.year) : w.timestamp = w.form.text := by
  have hyear : padded 4 w.date.year = decimal w.date.year := padded_eq_decimal h
  rw [timestamp, text_form, Date.isoText, hyear]

/-- The shape of a reading denotes it down to milliseconds, and nothing else. -/
theorem form_denotes_iff {x : Instant} : w.form.Denotes x ↔ x = w.wholeMillis := by
  have hdate : w.form.date.Denotes x.date ↔ x.date = w.wholeMillis.date := by
    rw [date_wholeMillis]
    exact DateForm.ofDate_denotes_iff w.isValid_date
  have hclock : w.form.clock = w.wholeMillis.clock := w.clock_timeForm
  rw [Form.Denotes, hdate, hclock]
  constructor
  · rintro ⟨hsame, hsame'⟩
    exact ext_date_clock hsame hsame'
  · rintro rfl
    exact ⟨rfl, rfl⟩

/-- A shown reading has the shape of a stamp from the year 1000 on. -/
theorem fits_timestamp (h : 1000 ≤ w.date.year) : Fits stampShape w.timestamp := by
  obtain ⟨hyear, hmonth, hday⟩ := Date.digits_of_isValid w.isValid_date
  obtain ⟨hhour, hminute, hsecond, -⟩ := Clock.digits_of_isValid w.isValid_clock
  have hpair {n : Nat} (hn : n < 10 ^ 2) : Fits ['d', 'd'] (padded 2 n) :=
    fits_padded (by decide) hn
  have hdate : Fits ['d', 'd', 'd', 'd', '-', 'd', 'd', '-', 'd', 'd'] w.date.isoText :=
    (fits_padded (by decide) hyear).append
      (((hpair hmonth).append ((hpair hday).cons (by decide))).cons (by decide))
  have hclock : Fits ['d', 'd', ':', 'd', 'd', ':', 'd', 'd'] (clockText w.clock) :=
    ((hpair hhour).append ((hpair hminute).cons (by decide))).append
      ((hpair hsecond).cons (by decide))
  rw [timestamp_eq h, text_form]
  exact (hdate.append (hclock.cons (by decide))).append
    ((fits_padded (by decide) w.millis_lt).cons (by decide))

section Order

/-- Dates in four digits and what follows them come in the order of the days. -/
theorem dateText_lt_iff {rest rest' : List Char} :
    w.date.isoText ++ rest < w'.date.isoText ++ rest' ↔
      w.date.toDays < w'.date.toDays ∨ w.date.toDays = w'.date.toDays ∧ rest < rest' := by
  obtain ⟨hyear, hmonth, hday⟩ := Date.digits_of_isValid w.isValid_date
  obtain ⟨hyear', hmonth', hday'⟩ := Date.digits_of_isValid w'.isValid_date
  have hsame : w.date.toDays = w'.date.toDays ↔ w.date = w'.date :=
    ⟨Date.eq_of_toDays_eq w.isValid_date w'.isValid_date, congrArg Date.toDays⟩
  have hfields : w.date = w'.date ↔ w.date.year = w'.date.year ∧ w.date.month = w'.date.month ∧
      w.date.day = w'.date.day := by
    cases w.date
    cases w'.date
    rw [Date.mk.injEq]
  rw [Date.toDays_lt_iff w.isValid_date w'.isValid_date, hsame, hfields, Date.Before]
  simp only [Date.isoText, monthDayText, List.append_assoc, List.cons_append,
    List.cons_lt_cons_self,
    padded_append_lt_iff (by decide) hyear hyear',
    padded_append_lt_iff (by decide) hmonth hmonth',
    padded_append_lt_iff (by decide) hday hday']
  simp only [and_or_left, or_assoc, and_assoc]

/-- Times of day in digits come in the order of their milliseconds. -/
theorem clockText_lt_iff :
    clockText w.clock ++ '.' :: padded 3 (w.clock.micro / 1000) <
        clockText w'.clock ++ '.' :: padded 3 (w'.clock.micro / 1000) ↔
      w.clock.toMicros / 1000 < w'.clock.toMicros / 1000 := by
  obtain ⟨hhour, hminute, hsecond, -⟩ := Clock.digits_of_isValid w.isValid_clock
  obtain ⟨hhour', hminute', hsecond', -⟩ := Clock.digits_of_isValid w'.isValid_clock
  have hclock := w.isValid_clock
  have hclock' := w'.isValid_clock
  simp only [Clock.isValid, Bool.and_eq_true, decide_eq_true_eq] at hclock hclock'
  simp only [clockText, List.append_assoc, List.cons_append, List.cons_lt_cons_self,
    padded_append_lt_iff (by decide) hhour hhour',
    padded_append_lt_iff (by decide) hminute hminute',
    padded_append_lt_iff (by decide) hsecond hsecond',
    padded_lt_padded_iff (by decide) w.millis_lt w'.millis_lt, Clock.toMicros]
  omega

theorem millis_lt_iff : w.micros / 1000 < w'.micros / 1000 ↔
    w.date.toDays < w'.date.toDays ∨ w.date.toDays = w'.date.toDays ∧
    w.clock.toMicros / 1000 < w'.clock.toMicros / 1000 := by
  rw [toDays_date, toDays_date, clock, clock, Clock.toMicros_ofMicros, Clock.toMicros_ofMicros,
    dayMicros]
  omega

/-- From the year 1000 on, texts come in the order of the readings down to milliseconds. -/
theorem timestamp_lt_iff (h : 1000 ≤ w.date.year) (h' : 1000 ≤ w'.date.year) :
    w.timestamp < w'.timestamp ↔ w.micros / 1000 < w'.micros / 1000 := by
  rw [timestamp_eq h, timestamp_eq h', text_form, text_form, millis_lt_iff]
  simp only [List.append_assoc, List.cons_append, dateText_lt_iff, List.cons_lt_cons_self,
    clockText_lt_iff]

end Order

theorem exists_timestamp_eq (w : WallTime) :
    ∃ rest, w.timestamp = decimal w.date.year ++ '-' :: rest := by
  simp only [timestamp, monthDayText, List.append_assoc, List.cons_append]
  exact ⟨_, rfl⟩

/-- A shown reading of a year before 1000 is not read as a date-time. -/
theorem read?_timestamp_of_early (h : w.date.year < 1000) : Reader.read? w.timestamp = none := by
  have hlength := (Nat.length_toDigits_le_iff (b := 10) (k := 3) (by decide) (by decide)).mpr h
  obtain ⟨rest, htext⟩ := w.exists_timestamp_eq
  rw [htext]
  exact Reader.read?_short_year (fun _ => isDigit_of_mem_decimal) (Nat.lt_succ_of_le hlength)

end WallTime

end UptimeAlert
