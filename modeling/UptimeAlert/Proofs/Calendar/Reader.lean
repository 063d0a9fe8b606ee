import UptimeAlert.Calendar.Reader
import UptimeAlert.Proofs.Text.Digits

namespace UptimeAlert.Calendar.Reader

open UptimeAlert.Text

variable {s : List UInt8} {p : Nat} {cs : List Char} {c : Char}

/-- Whether the characters of a text stand at a position, a byte for each. -/
def Shows (s : List UInt8) (p : Nat) (cs : List Char) : Prop :=
  cs.map code <+: s.drop p

theorem shows_cons :
    Shows s p (c :: cs) ↔ byteAt s p = code c ∧ p < s.length ∧ Shows s (p + 1) cs := by
  unfold Shows byteAt
  by_cases hp : p < s.length
  · rw [List.drop_eq_getElem_cons hp, List.map_cons, List.cons_prefix_cons, List.getD,
      List.getElem?_eq_getElem hp]
    simp [hp, eq_comm]
  · simp [List.drop_eq_nil_of_le (Nat.le_of_not_lt hp), hp]

theorem shows_append {cs cs' : List Char} :
    Shows s p (cs ++ cs') ↔ Shows s p cs ∧ Shows s (p + cs.length) cs' := by
  induction cs generalizing p with
  | nil => simp [Shows]
  | cons c cs ih =>
    have hlen : p + (c :: cs).length = p + 1 + cs.length := by
      rw [List.length_cons]
      omega
    rw [List.cons_append, shows_cons, shows_cons, ih, hlen, and_assoc, and_assoc]

theorem Shows.byteAt (h : Shows s p (c :: cs)) : byteAt s p = code c :=
  (shows_cons.mp h).1

theorem Shows.tail (h : Shows s p (c :: cs)) : Shows s (p + 1) cs :=
  (shows_cons.mp h).2.2

theorem byteAt_past (h : s.length ≤ p) : byteAt s p = 0 := by
  simp [byteAt, List.getElem?_eq_none h]

theorem isDigitByte_code {d : Char} (h : isDigit d = true) :
    isDigitByte (code d) = true ∧ (code d).toNat - 48 = digitValue d :=
  forall_digits (p := fun d => isDigitByte (code d) = true ∧ (code d).toNat - 48 = digitValue d)
    (by decide) h

/-- Digits are read as the number that they denote. -/
theorem number?_of_digits {ds : List Char} (hds : ∀ d ∈ ds, isDigit d = true) (h : Shows s p ds) :
    number? s p ds.length = some (ofDigits ds) := by
  induction ds using List.reverseRecOn with
  | nil => rfl
  | append_singleton ds d ih =>
    obtain ⟨hinit, hlast⟩ := shows_append.mp h
    obtain ⟨hdigit, hvalue⟩ := isDigitByte_code (hds d (by simp))
    rw [List.length_append, List.length_singleton, number?,
      ih (fun c hc => hds c (List.mem_append_left _ hc)) hinit]
    simp only
    rw [hlast.byteAt, if_pos hdigit, hvalue, ofDigits_concat]

section Clock

variable {stop : Nat}

theorem follow?_done (colons : Bool) (h : stop ≤ p + 1) :
    follow? s stop colons p = some (.done (byteAt s p != 0)) := by
  simp [follow?, h]

theorem follow?_pair (h : p + 1 < stop) (hc : byteAt s p = code ':') :
    follow? s stop true p = some (.pair (p + 1)) := by
  have hstop : ¬ stop ≤ p + 1 := by omega
  simp [follow?, hstop, hc]

theorem follow?_fraction (colons : Bool) (h : p + 1 < stop) (hc : byteAt s p = code c)
    (hmark : c = '.' ∨ c = ',') : follow? s stop colons p = some (.fraction (p + 1)) := by
  have hstop : ¬ stop ≤ p + 1 := by omega
  have hcolon : code c ≠ code ':' := by
    rcases hmark with rfl | rfl <;> decide
  rcases hmark with rfl | rfl <;> simp [follow?, hstop, hc, hcolon]

theorem countDigits_drop (h : isDigitByte (byteAt s p) = false) : countDigits (s.drop p) = 0 := by
  unfold countDigits
  cases hs : s.drop p with
  | nil => rfl
  | cons b bs =>
    have hb : byteAt s p = b := by
      have hhead := congrArg List.head? hs
      rw [List.head?_drop, List.head?_cons] at hhead
      simp [byteAt, hhead]
    simp [← hb, h]

end Clock

theorem offset?_of_clock {k : Clock} (hc : byteAt s p = code c) (hother : code c ≠ code 'Z')
    (hclock : clock? s (p + 1) s.length = some (k, false)) :
    offset? s p = offsetOf? (code c = code '-') k := by
  rw [offset?, hc, if_neg hother, hclock, Option.bind_eq_bind, Option.bind_some]
  simp only [Bool.false_eq_true, if_false]

/-- An offset of a second or more is taken as it is, and so is none. -/
theorem offsetOf?_eq {k : Clock} (hk : k.toMicros = 0 ∨ 1000000 ≤ k.toMicros) (behind : Bool) :
    offsetOf? behind k =
      Offset.ofMicros? (if behind then -(k.toMicros : Int) else k.toMicros) := by
  unfold offsetOf?
  rcases hk with hzero | hsecond
  · rw [hzero]
    cases behind <;> rfl
  · rw [if_neg (Nat.not_lt.mpr hsecond)]

end UptimeAlert.Calendar.Reader
