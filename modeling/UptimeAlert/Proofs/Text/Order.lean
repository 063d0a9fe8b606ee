import UptimeAlert.Proofs.Text.Digits

namespace UptimeAlert.Text

/-- Texts with fronts of one length are compared by the fronts first. -/
theorem append_lt_append_iff {front front' rest rest' : List Char}
    (h : front.length = front'.length) :
    front ++ rest < front' ++ rest' ↔ front < front' ∨ front = front' ∧ rest < rest' := by
  induction front generalizing front' with
  | nil =>
    obtain rfl := List.length_eq_zero_iff.mp h.symm
    simp
  | cons c front ih =>
    obtain ⟨c', front', rfl⟩ := List.exists_cons_of_length_eq_add_one h.symm
    have hlength : front.length = front'.length := by simpa using h
    simp only [List.cons_append, List.cons_lt_cons_iff, ih hlength, List.cons.injEq]
    tauto

theorem padded_inj {width m n : Nat} (hw : 0 < width) (hm : m < 10 ^ width) (hn : n < 10 ^ width) :
    padded width m = padded width n ↔ m = n := by
  constructor
  · intro h
    rw [← ofDigits_padded hw hm, h, ofDigits_padded hw hn]
  · rintro rfl
    rfl

/-- Numbers in digits of one length come in their order. -/
theorem padded_lt_padded_iff {width m n : Nat} (hw : 0 < width) (hm : m < 10 ^ width)
    (hn : n < 10 ^ width) : padded width m < padded width n ↔ m < n := by
  have hdigit : ∀ a < 10, ∀ b < 10, ([a.digitChar] < [b.digitChar] ↔ a < b) := by decide
  induction width generalizing m n with
  | zero => omega
  | succ width ih =>
    obtain rfl | hpos := Nat.eq_zero_or_pos width
    · have hm' : m < 10 := by simpa using hm
      have hn' : n < 10 := by simpa using hn
      rw [padded_one hm', padded_one hn', hdigit m hm' n hn']
    · have hm' : m / 10 < 10 ^ width := by
        rw [Nat.pow_succ] at hm
        omega
      have hn' : n / 10 < 10 ^ width := by
        rw [Nat.pow_succ] at hn
        omega
      have hfront : padded width (m / 10) < padded width (n / 10) ↔ m / 10 < n / 10 :=
        ih hpos hm' hn'
      rw [padded_succ hpos, padded_succ hpos, append_lt_append_iff
        (by rw [length_padded hpos hm', length_padded hpos hn']), hfront,
        padded_inj hpos hm' hn',
        hdigit _ (Nat.mod_lt m (by decide)) _ (Nat.mod_lt n (by decide))]
      omega

/-- Texts that begin with padded numbers of one width come in the order of the numbers, and where
these are the same, in that of what follows. -/
theorem padded_append_lt_iff {width m n : Nat} {rest rest' : List Char} (hw : 0 < width)
    (hm : m < 10 ^ width) (hn : n < 10 ^ width) :
    padded width m ++ rest < padded width n ++ rest' ↔ m < n ∨ m = n ∧ rest < rest' := by
  rw [append_lt_append_iff (by rw [length_padded hw hm, length_padded hw hn]),
    padded_lt_padded_iff hw hm hn, padded_inj hw hm hn]

end UptimeAlert.Text
