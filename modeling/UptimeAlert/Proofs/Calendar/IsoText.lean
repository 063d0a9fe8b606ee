import UptimeAlert.Proofs.Calendar.WallTime
import UptimeAlert.Proofs.Text.Blank
import UptimeAlert.Proofs.Text.Digits
import UptimeAlert.Proofs.Text.Utf8

namespace UptimeAlert

open UptimeAlert.Text

def Date.isoText (d : Date) : List Char :=
  padded 4 d.year ++ WallTime.monthDayText d

/-- The clock in an interchange form: seconds may be left out where there are none, and microseconds
are. -/
def Clock.isoText (short : Bool) (c : Clock) : List Char :=
  padded 2 c.hour ++ ':' :: padded 2 c.minute ++
    (if short && c.second = 0 && c.micro = 0 then [] else ':' :: padded 2 c.second) ++
    (if c.micro = 0 then [] else '.' :: padded 6 c.micro)

theorem Clock.isoText_subset (short : Bool) (c : Clock) :
    c.isoText short ⊆ digits ++ [':', '.'] := by
  have hpadded (w n : Nat) : padded w n ⊆ digits ++ [':', '.'] :=
    List.Subset.trans (padded_subset w n) (List.subset_append_left _ _)
  have hcolon : ':' ∈ digits ++ [':', '.'] := by decide
  have hpoint : '.' ∈ digits ++ [':', '.'] := by decide
  unfold isoText
  split <;> split <;> simp only [List.append_subset, List.cons_subset, List.nil_subset, hpadded,
    hcolon, hpoint, and_self]

def Offset.sign (o : Offset) : Char :=
  if o.micros < 0 then '-' else '+'

theorem Offset.isoText_eq (o : Offset) : o.isoText = o.sign :: o.clock.isoText true := by
  have hclock : Clock.ofMicros o.micros.natAbs = o.clock := rfl
  simp [isoText, sign, Clock.isoText, hclock]

namespace Moment

/-- The text of an offset, empty where none is known. -/
def offsetText (m : Moment) : List Char :=
  (m.offset.map Offset.isoText).getD []

theorem isoText_eq (m : Moment) :
    m.isoText = m.wall.date.isoText ++ 'T' :: (m.wall.clock.isoText false ++ m.offsetText) := by
  simp [isoText, isoTextWith, WallTime.isoText, WallTime.clockText, Date.isoText, Clock.isoText,
    offsetText]

def isoChars : List Char :=
  digits ++ [':', '.'] ++ ['-', '+', 'T']

theorem isoText_subset (m : Moment) : m.isoText ⊆ isoChars := by
  have hclock (short : Bool) (c : Clock) : c.isoText short ⊆ isoChars :=
    List.Subset.trans (c.isoText_subset short) (List.subset_append_left _ _)
  have hpadded (w n : Nat) : padded w n ⊆ isoChars :=
    List.Subset.trans (padded_subset w n) (by decide)
  have hhyphen : '-' ∈ isoChars := by decide
  have hseparator : 'T' ∈ isoChars := by decide
  have hoffset : m.offsetText ⊆ isoChars := by
    unfold offsetText
    cases m.offset with
    | none => exact List.nil_subset _
    | some o =>
      have hsign : o.sign ∈ isoChars := by
        unfold Offset.sign
        split <;> decide
      simpa [Offset.isoText_eq, hsign] using hclock true o.clock
  rw [isoText_eq, Date.isoText, WallTime.monthDayText]
  simp only [List.append_subset, List.cons_subset, hclock, hpadded, hhyphen, hseparator, hoffset,
    and_self]

theorem strip_isoText (m : Moment) : strip m.isoText = m.isoText := by
  have hblank : ∀ c ∈ isoChars, (!isBlank c) = true := List.all_eq_true.mp (by decide)
  exact strip_eq_self fun c hc => by simpa using hblank c (m.isoText_subset hc)

theorem encode_isoText (m : Moment) :
    Utf8.encode m.isoText = m.isoText.map fun c => c.toNat.toUInt8 := by
  have hascii : ∀ c ∈ isoChars, c.toNat < 128 := List.all_iff_forall_prop.mp (by decide)
  exact Utf8.encode_ascii fun c hc => hascii c (m.isoText_subset hc)

end Moment

end UptimeAlert
