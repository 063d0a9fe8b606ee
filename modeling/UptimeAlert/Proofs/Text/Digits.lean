import Mathlib.Data.Bool.AllAny
import Mathlib.Data.List.Basic
import Mathlib.Data.List.Induction
import Mathlib.Tactic.IntervalCases
import Mathlib.Tactic.Ring
import UptimeAlert.Text.Digits

namespace UptimeAlert.Text

theorem isDigit_of_mem_decimal {n : Nat} {c : Char} (h : c ∈ decimal n) : isDigit c = true := by
  have hdigit := Nat.isDigit_of_mem_toDigits (by decide) (by decide) h
  simpa [isDigit, Char.isDigit, Char.le_def] using hdigit

theorem isDigit_of_mem_padded {width n : Nat} {c : Char} (h : c ∈ padded width n) :
    isDigit c = true := by
  rcases List.mem_append.mp h with hzero | hdigit
  · rw [(List.mem_replicate.mp hzero).2]
    decide
  · exact isDigit_of_mem_decimal hdigit

def digits : List Char := ['0', '1', '2', '3', '4', '5', '6', '7', '8', '9']

theorem mem_digits {c : Char} (h : isDigit c = true) : c ∈ digits := by
  simp only [isDigit, Bool.and_eq_true, decide_eq_true_eq, Char.le_def] at h
  have hlow : 48 ≤ c.toNat := UInt32.le_iff_toNat_le.mp h.1
  have hhigh : c.toNat ≤ 57 := UInt32.le_iff_toNat_le.mp h.2
  rw [← Char.ofNat_toNat c]
  generalize c.toNat = n at hlow hhigh ⊢
  interval_cases n <;> decide

/-- What holds of the ten digits holds of every digit. -/
theorem forall_digits {p : Char → Prop} [DecidablePred p]
    (hall : (digits.all fun d => p d) = true) {d : Char} (h : isDigit d = true) : p d :=
  List.all_iff_forall_prop.mp hall d (mem_digits h)

theorem padded_subset (width n : Nat) : padded width n ⊆ digits :=
  fun _ h => mem_digits (isDigit_of_mem_padded h)

theorem padded_one {n : Nat} (h : n < 10) : padded 1 n = [n.digitChar] := by
  simp [padded, fillZeros, decimal, Nat.toDigits_of_lt_base h]

/-- A filled-up number ends in its last digit, and before it stands the number without it. -/
theorem fillZeros_toDigits_succ {base width : Nat} (hbase : 1 < base) (hw : 0 < width) (n : Nat) :
    fillZeros (width + 1) (Nat.toDigits base n) =
      fillZeros width (Nat.toDigits base (n / base)) ++ [(n % base).digitChar] := by
  by_cases h : n < base
  · rw [Nat.toDigits_of_lt_base h, Nat.div_eq_of_lt h, Nat.toDigits_zero, Nat.mod_eq_of_lt h]
    have hfill : List.replicate width '0' = List.replicate (width - 1) '0' ++ ['0'] := by
      rw [← List.replicate_succ', Nat.sub_add_cancel hw]
    simp [fillZeros, hfill]
  · rw [Nat.toDigits_of_base_le hbase (Nat.le_of_not_lt h)]
    simp [fillZeros]

theorem padded_succ {width : Nat} (hw : 0 < width) (n : Nat) :
    padded (width + 1) n = padded width (n / 10) ++ [(n % 10).digitChar] :=
  fillZeros_toDigits_succ (by decide) hw n

theorem hex_succ {width : Nat} (hw : 0 < width) (n : Nat) :
    hex (width + 1) n = hex width (n / 16) ++ [(n % 16).digitChar] :=
  fillZeros_toDigits_succ (by decide) hw n

theorem length_padded {width n : Nat} (hw : 0 < width) (h : n < 10 ^ width) :
    (padded width n).length = width := by
  induction width generalizing n with
  | zero => omega
  | succ width ih =>
    obtain rfl | hpos := Nat.eq_zero_or_pos width
    · simp [padded_one h]
    · have hten : n / 10 < 10 ^ width := by
        rw [Nat.pow_succ] at h
        omega
      rw [padded_succ hpos, List.length_append, ih hpos hten]
      rfl

theorem lt_length_decimal {width n : Nat} (h : 10 ^ width ≤ n) : width < (decimal n).length := by
  obtain rfl | hpos := Nat.eq_zero_or_pos width
  · exact Nat.length_toDigits_pos
  · by_contra hshort
    have hlt := (Nat.length_toDigits_le_iff (by decide) hpos).mp (Nat.le_of_not_lt hshort)
    exact absurd h (Nat.not_le_of_lt hlt)

/-- A number that is long enough is not filled up. -/
theorem padded_eq_decimal {width n : Nat} (h : 10 ^ width ≤ n) :
    padded (width + 1) n = decimal n := by
  rw [padded, fillZeros, Nat.sub_eq_zero_of_le (lt_length_decimal h), List.replicate_zero,
    List.nil_append]

theorem ofDigits_concat (ds : List Char) (d : Char) :
    ofDigits (ds ++ [d]) = 10 * ofDigits ds + digitValue d := by
  rw [ofDigits, List.foldl_append]
  rfl

theorem ofDigits_append (ds ds' : List Char) :
    ofDigits (ds ++ ds') = ofDigits ds * 10 ^ ds'.length + ofDigits ds' := by
  induction ds' using List.reverseRecOn with
  | nil => simp [ofDigits]
  | append_singleton ds' d ih =>
    rw [← List.append_assoc, ofDigits_concat, ofDigits_concat, ih, List.length_append,
      List.length_singleton, Nat.pow_succ]
    ring

theorem digitValue_lt {d : Char} (h : isDigit d = true) : digitValue d < 10 :=
  forall_digits (p := fun d => digitValue d < 10) (by decide) h

theorem ofDigits_lt {ds : List Char} (h : ∀ d ∈ ds, isDigit d = true) :
    ofDigits ds < 10 ^ ds.length := by
  induction ds using List.reverseRecOn with
  | nil => simp [ofDigits]
  | append_singleton ds d ih =>
    have hlast := digitValue_lt (h d (by simp))
    have hinit := ih fun c hc => h c (List.mem_append_left _ hc)
    rw [ofDigits_concat, List.length_append, List.length_singleton, Nat.pow_succ]
    omega

theorem digitValue_digitChar {n : Nat} (h : n < 10) : digitValue n.digitChar = n := by
  interval_cases n <;> rfl

/-- A padded number is read as itself. -/
theorem ofDigits_padded {width n : Nat} (hw : 0 < width) (h : n < 10 ^ width) :
    ofDigits (padded width n) = n := by
  induction width generalizing n with
  | zero => omega
  | succ width ih =>
    obtain rfl | hpos := Nat.eq_zero_or_pos width
    · have hten : n < 10 := by simpa using h
      rw [padded_one hten]
      simpa [ofDigits] using digitValue_digitChar hten
    · have hten : n / 10 < 10 ^ width := by
        rw [Nat.pow_succ] at h
        omega
      rw [padded_succ hpos, ofDigits_concat, ih hpos hten,
        digitValue_digitChar (Nat.mod_lt n (by decide)), Nat.div_add_mod]

theorem length_decimal_pos (n : Nat) : 0 < (decimal n).length :=
  Nat.length_toDigits_pos

theorem length_decimal_le_iff {width n : Nat} (hw : 0 < width) :
    (decimal n).length ≤ width ↔ n < 10 ^ width :=
  Nat.length_toDigits_le_iff (by decide) hw

/-- A number that is written is read as itself. -/
theorem ofDigits_decimal (n : Nat) : ofDigits (decimal n) = n := by
  have hfilled : padded (decimal n).length n = decimal n := by
    rw [padded, fillZeros, Nat.sub_self, List.replicate_zero, List.nil_append]
  have hpos := length_decimal_pos n
  have hread := ofDigits_padded hpos ((length_decimal_le_iff hpos).mp le_rfl)
  rwa [hfilled] at hread

end UptimeAlert.Text
