import Mathlib.Data.List.TakeDrop
import Mathlib.Data.List.TakeWhile
import UptimeAlert.Json.Reader
import UptimeAlert.Json.Writer
import UptimeAlert.Proofs.Text.Digits

namespace UptimeAlert.Json

open UptimeAlert.Text

theorem isShort_iff {n : Int} : IsShort n ↔ n.natAbs < 10 ^ digitLimit :=
  length_decimal_le_iff (by decide)

/-- A number does not go on here. -/
def EndsNumber (rest : List Char) : Prop :=
  ∀ c ∈ rest.head?, isDigit c = false ∧ c ∉ ['.', 'e', 'E']

theorem endsNumber_nil : EndsNumber [] := by
  rintro c ⟨⟩

theorem endsNumber_cons {c : Char} (hdigit : isDigit c = false) (hmark : c ∉ ['.', 'e', 'E'])
    (rest : List Char) : EndsNumber (c :: rest) := by
  rintro _ ⟨⟩
  exact ⟨hdigit, hmark⟩

variable {rest : List Char}

theorem digits_append {ds : List Char} (hds : ∀ d ∈ ds, isDigit d = true)
    (hrest : EndsNumber rest) : digits (ds ++ rest) = (ds, rest) := by
  rw [digits, List.span_eq_takeWhile_dropWhile, List.takeWhile_append_of_pos hds,
    List.dropWhile_append_of_pos hds]
  cases rest with
  | nil => simp
  | cons c rest => simp [(hrest c rfl).1]

theorem exists_decimal_cons (n : Nat) : ∃ d ds, decimal n = d :: ds ∧ isDigit d = true := by
  obtain ⟨d, ds, h⟩ := List.exists_cons_of_length_pos (length_decimal_pos n)
  exact ⟨d, ds, h, isDigit_of_mem_decimal (h ▸ List.mem_cons_self)⟩

/-- No written number but zero begins with a zero. -/
theorem decimal_ne_zero_cons {n : Nat} (hn : 0 < n) (ds : List Char) : decimal n ≠ '0' :: ds := by
  intro h
  have hds : ∀ d ∈ ds, isDigit d = true := fun d hd =>
    isDigit_of_mem_decimal (h ▸ List.mem_cons_of_mem _ hd)
  have hlead : ofDigits ('0' :: ds) = ofDigits ds := rfl
  have hvalue : ofDigits ds = n := by rw [← hlead, ← h, ofDigits_decimal]
  have hlt : n < 10 ^ ds.length := hvalue ▸ ofDigits_lt hds
  obtain rfl | hne := eq_or_ne ds []
  · simp at hlt
    omega
  · have hlength := (length_decimal_le_iff (List.length_pos_iff.mpr hne)).mpr hlt
    rw [h, List.length_cons] at hlength
    omega

theorem wholeDigits?_decimal (n : Nat) (hrest : EndsNumber rest) :
    wholeDigits? (decimal n ++ rest) = some (decimal n, rest) := by
  obtain rfl | hn := Nat.eq_zero_or_pos n
  · rfl
  · have hread := digits_append (fun d => isDigit_of_mem_decimal (n := n)) hrest
    obtain ⟨d, ds, h, hdigit⟩ := exists_decimal_cons n
    have hzero : d ≠ '0' := fun hd => decimal_ne_zero_cons hn ds (hd ▸ h)
    rw [h] at hread ⊢
    rw [List.cons_append, wholeDigits?, if_neg hzero, if_pos hdigit, ← List.cons_append, hread]

theorem placesOf_of_endsNumber (hrest : EndsNumber rest) : placesOf rest = ([], rest) := by
  unfold placesOf
  split
  · exact absurd (hrest '.' rfl).2 (by decide)
  · rfl

theorem exponentOf_of_endsNumber (hrest : EndsNumber rest) : exponentOf rest = (none, rest) := by
  cases rest with
  | nil => rfl
  | cons c rest =>
    have hmark := (hrest c rfl).2
    simp only [List.mem_cons, List.not_mem_nil, or_false, not_or] at hmark
    simp [exponentOf, hmark]

theorem wholeNumber_decimal (negative : Bool) {n : Nat} (h : (decimal n).length ≤ digitLimit) :
    wholeNumber negative (decimal n) = .ok (.int (if negative then -n else n)) := by
  rw [wholeNumber, if_neg (Nat.not_lt.mpr h), ofDigits_decimal]

theorem readNumber_decimal (place : Nat) (negative : Bool) {n : Nat}
    (h : (decimal n).length ≤ digitLimit) (hrest : EndsNumber rest) :
    readNumber place negative (decimal n ++ rest) =
      .ok (.int (if negative then -n else n), rest) := by
  simp only [readNumber, wholeDigits?_decimal n hrest, placesOf_of_endsNumber hrest,
    exponentOf_of_endsNumber hrest, List.isEmpty_nil, Option.isNone_none, Bool.and_self, if_true,
    wholeNumber_decimal negative h]
  rfl

theorem readWord?_digit {d : Char} (h : isDigit d = true) (cs : List Char) :
    readWord? (d :: cs) = none ∧ readWord? ('-' :: d :: cs) = none := by
  have hletter : d ∉ ['n', 't', 'f', 'N', 'I', '-'] :=
    forall_digits (p := fun d => d ∉ ['n', 't', 'f', 'N', 'I', '-']) (by decide) h
  simp only [List.mem_cons, List.not_mem_nil, or_false, not_or] at hletter
  obtain ⟨hn, ht, hf, hN, hI, hminus⟩ := hletter
  simp [readWord?, words, List.isPrefixOf?, Ne.symm hn, Ne.symm ht, Ne.symm hf, Ne.symm hN,
    Ne.symm hI, Ne.symm hminus]

/-- A whole number within the limit is read as itself. -/
theorem readAtom_signedDecimal {n : Int} (hn : IsShort n) (hrest : EndsNumber rest) :
    readAtom (signedDecimal n ++ rest) = .ok (.int n, rest) := by
  cases n with
  | ofNat n =>
    obtain ⟨d, ds, h, hdigit⟩ := exists_decimal_cons n
    have hminus : d ≠ '-' := forall_digits (p := (· ≠ '-')) (by decide) hdigit
    have hread (place : Nat) :=
      readNumber_decimal place false (show (decimal n).length ≤ digitLimit from hn) hrest
    rw [signedDecimal]
    rw [h] at hread ⊢
    simpa [readAtom, (readWord?_digit hdigit _).1, hminus] using hread _
  | negSucc n =>
    obtain ⟨d, ds, h, hdigit⟩ := exists_decimal_cons (n + 1)
    have hread (place : Nat) :=
      readNumber_decimal place true (show (decimal (n + 1)).length ≤ digitLimit from hn) hrest
    rw [signedDecimal]
    rw [h] at hread ⊢
    simpa [readAtom, (readWord?_digit hdigit _).2, Int.negSucc_eq] using hread _

/-- What is read as a word or a number. -/
inductive Atom : Value → Prop where
  | null : Atom .null
  | bool (b : Bool) : Atom (.bool b)
  | float (x : Binary64) : Atom (.float x)
  | int {n : Int} (h : IsShort n) : Atom (.int n)

theorem atom_of_readWord? {cs : List Char} {v : Value} (h : readWord? cs = some (v, rest)) :
    Atom v := by
  obtain ⟨⟨word, w⟩, hmem, hword⟩ := List.exists_of_findSome?_eq_some h
  obtain ⟨_, -, hv⟩ := Option.map_eq_some_iff.mp hword
  obtain rfl : w = v := congrArg Prod.fst hv
  simp only [words, List.mem_cons, Prod.mk.injEq, List.not_mem_nil, or_false] at hmem
  obtain ⟨-, rfl⟩ | ⟨-, rfl⟩ | ⟨-, rfl⟩ | ⟨-, rfl⟩ | ⟨-, rfl⟩ | ⟨-, rfl⟩ := hmem <;> constructor

theorem isDigit_of_wholeDigits? {cs ds : List Char} (h : wholeDigits? cs = some (ds, rest)) :
    ∀ d ∈ ds, isDigit d = true := by
  cases cs with
  | nil => cases h
  | cons c cs =>
    rw [wholeDigits?] at h
    split_ifs at h with hzero hdigit
    · cases h
      exact List.forall_mem_singleton.mpr rfl
    · rw [digits, List.span_eq_takeWhile_dropWhile] at h
      cases h
      exact fun d => List.mem_takeWhile_imp

theorem atom_of_wholeNumber {negative : Bool} {ds : List Char} (hds : ∀ d ∈ ds, isDigit d = true)
    {v : Value} (h : wholeNumber negative ds = .ok v) : Atom v := by
  obtain hlimit | hlimit := Nat.lt_or_ge digitLimit ds.length
  · rw [wholeNumber, if_pos hlimit] at h
    cases h
  rw [wholeNumber, if_neg (Nat.not_lt.mpr hlimit)] at h
  obtain rfl := Except.ok.inj h
  have hlt : ofDigits ds < 10 ^ digitLimit :=
    Nat.lt_of_lt_of_le (ofDigits_lt hds) (Nat.pow_le_pow_right (by decide) hlimit)
  refine .int (isShort_iff.mpr ?_)
  cases negative <;> simpa using hlt

/-- A number that is read is a floating-point one, or whole and short. -/
theorem atom_of_readNumber {place : Nat} {negative : Bool} {cs : List Char} {v : Value}
    (h : readNumber place negative cs = .ok (v, rest)) : Atom v := by
  rw [readNumber] at h
  cases hwhole : wholeDigits? cs with
  | none =>
    rw [hwhole] at h
    cases h
  | some whole =>
    rw [hwhole] at h
    dsimp only at h
    split_ifs at h
    · cases hn : wholeNumber negative whole.1 with
      | error fault =>
        rw [hn] at h
        cases h
      | ok w =>
        rw [hn] at h
        cases h
        exact atom_of_wholeNumber (isDigit_of_wholeDigits? hwhole) hn
    · cases h
      exact .float _

/-- Words and numbers are read as nothing but these values. -/
theorem atom_of_readAtom {cs : List Char} {v : Value} (h : readAtom cs = .ok (v, rest)) :
    Atom v := by
  rw [readAtom.eq_def] at h
  cases hword : readWord? cs with
  | some read =>
    rw [hword] at h
    cases h
    exact atom_of_readWord? hword
  | none =>
    rw [hword] at h
    dsimp only at h
    split at h <;> exact atom_of_readNumber h

end UptimeAlert.Json
