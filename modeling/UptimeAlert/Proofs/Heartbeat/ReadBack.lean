import UptimeAlert.Proofs.Calendar.Timestamp
import UptimeAlert.Proofs.Heartbeat.Spelling
import UptimeAlert.Template.ZonedTime

namespace UptimeAlert

open UptimeAlert.Calendar
open UptimeAlert.Text

namespace Zone

variable {z : Zone} {x : Instant}

/-- The microseconds since the beginning of year 1 that a clock of a zone counts at an instant,
whether or not it can show them. -/
def localMicros (z : Zone) (x : Instant) : Int :=
  x.micros + z.offsetAt x * 1000000

/-- The text of an instant on a clock of a zone, if the clock can show it. -/
def stamp? (z : Zone) (x : Instant) : Option (List Char) :=
  (z.wallTime? x).map WallTime.timestamp

theorem stamp?_eq_none_iff : z.stamp? x = none ↔ ¬ WallTime.InCalendar (z.localMicros x) := by
  rw [stamp?, wallTime?, Option.map_eq_none_iff, WallTime.shift?_eq_none_iff, localMicros]

theorem show?_eq [Platform] {name : List Char}
    (h : Platform.zone? (String.ofList name) = some z) :
    Template.ZonedTime.show? x name = z.stamp? x := by
  rw [Template.ZonedTime.show?, h]
  rfl

/-- Whether an instant has a reading and a text on a clock of a zone. -/
structure Shows (z : Zone) (x : Instant) (w : WallTime) (t : List Char) : Prop where
  micros_eq : (w.micros : Int) = z.localMicros x
  stamp_eq : z.stamp? x = some t

theorem exists_shows {t : List Char} (h : z.stamp? x = some t) : ∃ w, z.Shows x w t := by
  obtain ⟨w, hw, -⟩ := Option.map_eq_some_iff.mp h
  exact ⟨w, WallTime.shift?_eq_some_iff.mp hw, h⟩

theorem Shows.eq_timestamp {w : WallTime} {t : List Char} (h : z.Shows x w t) :
    t = w.timestamp := by
  have hwall : z.wallTime? x = some w := WallTime.shift?_eq_some_iff.mpr h.micros_eq
  have hstamp := h.stamp_eq
  rw [stamp?, hwall, Option.map_some] at hstamp
  exact (Option.some.inj hstamp).symm

/-- No offset changes what is less than a second. -/
theorem Shows.micro_eq {w : WallTime} {t : List Char} (h : z.Shows x w t) :
    w.clock.micro = x.micros % 1000000 := by
  have hmicros := h.micros_eq
  simp only [localMicros] at hmicros
  simp only [WallTime.clock, Clock.ofMicros, dayMicros]
  omega

end Zone

namespace Heartbeat

/-- What a text that shows a reading is read back as. -/
structure ReadsBack (w : WallTime) (t : List Char) : Prop where
  length_eq : 1000 ≤ w.date.year → t.length = 23
  fits : 1000 ≤ w.date.year → Fits WallTime.stampShape t
  instant : 1000 ≤ w.date.year → instantOf? (.text (String.ofList t)) = some w.wholeMillis
  early : w.date.year < 1000 → instantOf? (.text (String.ofList t)) = none

/-- A stamp begins and ends with a digit, so no blanks are taken from it. -/
theorem strip_timestamp (w : WallTime) : strip w.timestamp = w.timestamp := by
  have hfirst : ∃ d rest, w.timestamp = d :: rest ∧ isDigit d = true := by
    obtain ⟨rest, htext⟩ := w.exists_timestamp_eq
    obtain ⟨d, ds, hyear⟩ : ∃ d ds, decimal w.date.year = d :: ds :=
      List.exists_cons_of_ne_nil Nat.toDigits_ne_nil
    refine ⟨d, ds ++ '-' :: rest, ?_, isDigit_of_mem_decimal (hyear ▸ List.mem_cons_self)⟩
    rw [htext, hyear, List.cons_append]
  have hmillis : EndsInDigit ('.' :: padded 3 (w.clock.micro / 1000)) :=
    (DigitRun.ofNat w.millis_lt).endsInDigit.append_left ['.']
  exact strip_of_digits hfirst (hmillis.append_left _)

theorem readsBack_timestamp (w : WallTime) : ReadsBack w w.timestamp where
  length_eq h := (WallTime.fits_timestamp h).length_eq.symm
  fits := WallTime.fits_timestamp
  instant h := by
    rw [WallTime.timestamp_eq h, instantOf?_form_iff, WallTime.form_denotes_iff]
  early h := by
    rw [instantOf?, String.toList_ofList, strip_timestamp, WallTime.read?_timestamp_of_early h,
      Option.bind_none]

/-- A clock of a zone shows an instant exactly if its reading falls in the calendar. What it shows
is read back as the reading down to milliseconds, the milliseconds being those of the instant, and
texts come in the order of the readings. -/
theorem stamp?_reads_back [Platform] (z : Zone) (x : Instant) :
    (∀ name, Platform.zone? (String.ofList name) = some z →
      Template.ZonedTime.show? x name = z.stamp? x) ∧
    (z.stamp? x = none ↔ ¬ WallTime.InCalendar (z.localMicros x)) ∧
    (∀ t, z.stamp? x = some t → ∃ w, z.Shows x w t) ∧
    ∀ w t, z.Shows x w t →
      ReadsBack w t ∧ '.' :: padded 3 (x.micros % 1000000 / 1000) <:+ t ∧
      ∀ (z' : Zone) (x' : Instant) (w' : WallTime) t', z'.Shows x' w' t' →
        1000 ≤ w.date.year → 1000 ≤ w'.date.year →
        (t < t' ↔ w.micros / 1000 < w'.micros / 1000) := by
  refine ⟨fun name => Zone.show?_eq, Zone.stamp?_eq_none_iff, fun t => Zone.exists_shows,
    fun w t hshows => ?_⟩
  obtain rfl := hshows.eq_timestamp
  refine ⟨readsBack_timestamp w, ?_, ?_⟩
  · rw [← hshows.micro_eq]
    exact List.suffix_append _ _
  · intro z' x' w' t' hshows' hyear hyear'
    obtain rfl := hshows'.eq_timestamp
    exact WallTime.timestamp_lt_iff hyear hyear'

example : instantOf? (.text "999-12-31 23:59:59.999") = none := by decide +kernel

end Heartbeat

end UptimeAlert
