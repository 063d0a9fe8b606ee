import Mathlib.Data.List.TakeWhile
import UptimeAlert.Text.Blank

namespace UptimeAlert.Text

/-- Blanks around a text do not matter to what is left of it. -/
theorem strip_surrounded {before after : List Char} (hbefore : ∀ c ∈ before, isBlank c = true)
    (hafter : ∀ c ∈ after, isBlank c = true) (cs : List Char) :
    strip (before ++ cs ++ after) = strip cs := by
  have hfront : (before ++ cs ++ after).dropWhile isBlank = (cs ++ after).dropWhile isBlank := by
    rw [List.append_assoc, List.dropWhile_append_of_pos hbefore]
  have hrest : ∀ c ∈ after.reverse, isBlank c = true := fun c hc =>
    hafter c (List.mem_reverse.mp hc)
  rw [strip, strip, trim, trim, hfront, List.dropWhile_append]
  by_cases hcs : (cs.dropWhile isBlank).isEmpty = true
  · have hafter' : after.dropWhile isBlank = [] := List.dropWhile_eq_nil_iff.mpr hafter
    rw [if_pos hcs, hafter', List.isEmpty_iff.mp hcs]
  · rw [if_neg hcs, List.reverse_append, List.dropWhile_append_of_pos hrest]

/-- Only blanks are taken from a text, at its two ends. -/
theorem exists_strip (cs : List Char) :
    ∃ before after, (∀ c ∈ before, isBlank c = true) ∧ (∀ c ∈ after, isBlank c = true) ∧
      cs = before ++ strip cs ++ after := by
  let rest := cs.dropWhile isBlank
  refine ⟨cs.takeWhile isBlank, (rest.reverse.takeWhile isBlank).reverse,
    fun c hc => List.mem_takeWhile_imp hc,
    fun c hc => List.mem_takeWhile_imp (List.mem_reverse.mp hc), ?_⟩
  have hrest : strip cs ++ (rest.reverse.takeWhile isBlank).reverse = rest := by
    rw [strip, trim, ← List.reverse_append, List.takeWhile_append_dropWhile, List.reverse_reverse]
  rw [List.append_assoc, hrest, List.takeWhile_append_dropWhile]

theorem length_strip_le (cs : List Char) : (strip cs).length ≤ cs.length := by
  obtain ⟨before, after, -, -, hcs⟩ := exists_strip cs
  have hlength := congrArg List.length hcs
  simp only [List.length_append] at hlength
  omega

/-- A text is its own stripped form exactly if it neither begins nor ends with a blank. -/
theorem strip_eq_self_iff {cs : List Char} :
    strip cs = cs ↔ (∀ c ∈ cs.head?, isBlank c = false) ∧ ∀ c ∈ cs.getLast?, isBlank c = false := by
  constructor
  · intro h
    have hshorter : ∀ before rest after, cs = before ++ rest ++ after →
        (∀ c ∈ before, isBlank c = true) → (∀ c ∈ after, isBlank c = true) →
        cs.length ≤ rest.length := by
      intro before rest after hcs hbefore hafter
      rw [← h, hcs, strip_surrounded hbefore hafter]
      exact length_strip_le rest
    constructor
    · intro c hc
      obtain ⟨rest, hcs⟩ := List.head?_eq_some_iff.mp hc
      by_contra hblank
      have hle := hshorter [c] rest [] (by simp [hcs]) (by simpa using hblank) (by simp)
      rw [hcs, List.length_cons] at hle
      omega
    · intro c hc
      obtain ⟨rest, hcs⟩ := List.getLast?_eq_some_iff.mp hc
      by_contra hblank
      have hle := hshorter [] rest [c] (by simp [hcs]) (by simp) (by simpa using hblank)
      rw [hcs, List.length_append, List.length_singleton] at hle
      omega
  · rintro ⟨hhead, hlast⟩
    have hfront : cs.dropWhile isBlank = cs := by
      cases cs with
      | nil => rfl
      | cons c cs => simp [hhead c rfl]
    have hback : cs.reverse.dropWhile isBlank = cs.reverse := by
      cases hr : cs.reverse with
      | nil => rfl
      | cons c rest =>
        have hc : cs.getLast? = some c := by rw [← List.head?_reverse, hr, List.head?_cons]
        simp [hlast c hc]
    rw [strip, trim, hfront, hback, List.reverse_reverse]

theorem strip_eq_self {cs : List Char} (h : ∀ c ∈ cs, isBlank c = false) : strip cs = cs :=
  strip_eq_self_iff.mpr
    ⟨fun c hc => h c (List.mem_of_mem_head? hc), fun c hc => h c (List.mem_of_getLast? hc)⟩

end UptimeAlert.Text
