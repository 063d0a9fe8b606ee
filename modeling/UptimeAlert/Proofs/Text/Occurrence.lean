import Mathlib.Data.List.Infix
import UptimeAlert.Text.Search

namespace UptimeAlert.Text

/-- No occurrence of `p` begins inside `x` when `y` follows. -/
def Avoids (p x y : List Char) : Prop :=
  ∀ s, s <:+ x → s ≠ [] → ¬ p <+: s ++ y

theorem avoids_cons {p x y : List Char} {c : Char} :
    Avoids p (c :: x) y ↔ ¬ p <+: c :: (x ++ y) ∧ Avoids p x y := by
  constructor
  · intro h
    exact ⟨h (c :: x) List.suffix_rfl (by simp),
      fun s hs hne => h s (hs.trans (List.suffix_cons c x)) hne⟩
  · rintro ⟨hc, hx⟩ s hs hne
    rcases List.suffix_cons_iff.mp hs with rfl | hs
    · exact hc
    · exact hx s hs hne

theorem avoids_of_not_mem {p x y : List Char} {c : Char} (hc : c ∉ x) :
    Avoids (c :: p) x y := by
  intro s hs hne hp
  obtain ⟨d, s, rfl⟩ := List.exists_cons_of_ne_nil hne
  have hd : c = d := (List.cons_prefix_cons.mp hp).1
  exact hc (hs.subset (by simp [hd]))

theorem takeWhile_append_self {x : List Char} {c : Char} (h : c ∉ x) (y : List Char) :
    (x ++ c :: y).takeWhile (· != c) = x := by
  have hall : ∀ d ∈ x, (d != c) = true := by
    intro d hd
    rw [bne_iff_ne]
    rintro rfl
    exact h hd
  rw [List.takeWhile_append_of_pos hall]
  simp

theorem avoids_nil_iff {p x : List Char} (hp : p ≠ []) : Avoids p x [] ↔ ¬ p <:+: x := by
  constructor
  · rintro h ⟨before, rest, rfl⟩
    refine h (p ++ rest) ⟨before, by simp⟩ (by simp [hp]) (by simp)
  · rintro h s hs - hpre
    exact h ((List.append_nil s ▸ hpre).isInfix.trans hs.isInfix)

/-- An occurrence in two texts stands in the second one where none begins in the first. -/
theorem split_of_avoids {p x y before after : List Char} (h : Avoids p x y)
    (heq : x ++ y = before ++ p ++ after) :
    ∃ rest, before = x ++ rest ∧ y = rest ++ p ++ after := by
  induction x generalizing before with
  | nil => exact ⟨before, rfl, heq⟩
  | cons c x ih =>
    obtain ⟨hc, hx⟩ := avoids_cons.mp h
    cases before with
    | nil => exact absurd ⟨after, heq.symm⟩ hc
    | cons d before =>
      obtain ⟨rfl, htail⟩ := List.cons.inj heq
      obtain ⟨rest, rfl, hy⟩ := ih hx htail
      exact ⟨rest, rfl, hy⟩

theorem infix_of_avoids {p x y : List Char} (h : Avoids p x y)
    (hin : p <:+: x ++ y) : p <:+: y := by
  obtain ⟨before, after, heq⟩ := hin
  obtain ⟨rest, -, hy⟩ := split_of_avoids h heq.symm
  exact ⟨rest, after, hy.symm⟩

theorem isPrefixOf?_eq_some_iff {p cs rest : List Char} :
    p.isPrefixOf? cs = some rest ↔ cs = p ++ rest := by
  induction p generalizing cs with
  | nil => simp [List.isPrefixOf?, eq_comm]
  | cons c p ih =>
    cases cs with
    | nil => simp [List.isPrefixOf?]
    | cons d cs =>
      by_cases hd : c = d
      · simp [List.isPrefixOf?, hd, ih]
      · simp [List.isPrefixOf?, hd, Ne.symm hd]

theorem isPrefixOf?_eq_none {p cs : List Char} (h : ¬ p <+: cs) : p.isPrefixOf? cs = none := by
  rw [Option.eq_none_iff_forall_ne_some]
  intro rest hr
  exact h ⟨rest, (isPrefixOf?_eq_some_iff.mp hr).symm⟩

theorem cut?_of_isPrefixOf? {p cs rest : List Char} (h : p.isPrefixOf? cs = some rest) :
    cut? p cs = some ([], rest) := by
  cases cs with
  | nil => rw [cut?, h, Option.map_some]
  | cons c cs => rw [cut?, h]

theorem cut?_cons {p cs : List Char} {c : Char} (h : p.isPrefixOf? (c :: cs) = none) :
    cut? p (c :: cs) = (cut? p cs).map fun (before, rest) => (c :: before, rest) := by
  rw [cut?, h]

theorem cut?_self (p y : List Char) : cut? p (p ++ y) = some ([], y) :=
  cut?_of_isPrefixOf? (isPrefixOf?_eq_some_iff.mpr rfl)

/-- A search passes over a text in which no occurrence begins. -/
theorem cut?_append {p x y : List Char} (h : Avoids p x y) :
    cut? p (x ++ y) = (cut? p y).map fun (before, rest) => (x ++ before, rest) := by
  induction x with
  | nil => simp
  | cons c x ih =>
    obtain ⟨hc, hx⟩ := avoids_cons.mp h
    rw [List.cons_append, cut?_cons (isPrefixOf?_eq_none hc), ih hx]
    simp [Option.map_map, Function.comp_def]

theorem cut?_eq_none {p x : List Char} (hp : p ≠ []) (h : ¬ p <:+: x) : cut? p x = none := by
  have hx := cut?_append ((avoids_nil_iff hp).mpr h)
  obtain ⟨c, p, rfl⟩ := List.exists_cons_of_ne_nil hp
  simpa [cut?, List.isPrefixOf?] using hx

/-- What a search cuts a text into makes up the text. -/
theorem eq_append_of_cut? {p cs before rest : List Char} (h : cut? p cs = some (before, rest)) :
    cs = before ++ p ++ rest := by
  induction cs generalizing before with
  | nil =>
    have hempty : p.isPrefixOf? [] = some rest ∧ [] = before := by simpa [cut?] using h
    rw [isPrefixOf?_eq_some_iff.mp hempty.1, ← hempty.2, List.nil_append]
  | cons c cs ih =>
    cases hc : p.isPrefixOf? (c :: cs) with
    | some found =>
      rw [cut?_of_isPrefixOf? hc] at h
      cases h
      rw [isPrefixOf?_eq_some_iff.mp hc, List.nil_append]
    | none =>
      rw [cut?_cons hc] at h
      obtain ⟨⟨front, found⟩, hcut, heq⟩ := Option.map_eq_some_iff.mp h
      cases heq
      exact congrArg (List.cons c) (ih hcut)

/-- A single character is found where it stands first. -/
theorem cut?_char_eq_some_iff {c : Char} {cs before after : List Char} :
    cut? [c] cs = some (before, after) ↔ cs = before ++ c :: after ∧ c ∉ before := by
  constructor
  · intro h
    induction cs generalizing before with
    | nil => simp [cut?, List.isPrefixOf?] at h
    | cons d cs ih =>
      by_cases hd : c = d
      · subst hd
        obtain ⟨rfl, rfl⟩ : [] = before ∧ cs = after := by
          simpa [cut?, List.isPrefixOf?] using h
        exact ⟨rfl, List.not_mem_nil⟩
      · have hcut : ∃ found, cut? [c] cs = some (found, after) ∧ d :: found = before := by
          simpa [cut?, List.isPrefixOf?, hd] using h
        obtain ⟨found, hfound, rfl⟩ := hcut
        obtain ⟨rfl, hnot⟩ := ih hfound
        exact ⟨rfl, by simp [hd, hnot]⟩
  · rintro ⟨rfl, hc⟩
    have hrest : cut? [c] (c :: after) = some ([], after) := cut?_self [c] after
    rw [cut?_append (avoids_of_not_mem hc), hrest]
    simp

theorem cut?_char_eq_none_iff {c : Char} {cs : List Char} : cut? [c] cs = none ↔ c ∉ cs := by
  constructor
  · intro h hc
    obtain ⟨before, after, rfl, hbefore⟩ := List.eq_append_cons_of_mem hc
    rw [cut?_char_eq_some_iff.mpr ⟨rfl, hbefore⟩] at h
    cases h
  · intro hc
    exact cut?_eq_none (by simp) fun hin => hc (hin.subset List.mem_cons_self)

theorem replaceFrom_eq_drop (p r : List Char) (k : Nat) (cs : List Char) :
    replaceFrom p r k cs = replaceFrom p r 0 (cs.drop k) := by
  induction k generalizing cs with
  | zero => rfl
  | succ k ih =>
    cases cs with
    | nil => simp [replaceFrom]
    | cons c cs => simp [replaceFrom, ih cs]

theorem replaceAll_self {p : List Char} (hp : p ≠ []) (r y : List Char) :
    replaceAll p r (p ++ y) = r ++ replaceAll p r y := by
  obtain ⟨c, p, rfl⟩ := List.exists_cons_of_ne_nil hp
  have hpre : (c :: p).isPrefixOf (c :: (p ++ y)) = true := by
    simp [List.isPrefixOf_iff_prefix]
  rw [replaceAll, List.cons_append, replaceFrom, if_pos hpre, replaceFrom_eq_drop]
  simp [replaceAll]

theorem replaceAll_append {p x y : List Char} (r : List Char) (h : Avoids p x y) :
    replaceAll p r (x ++ y) = x ++ replaceAll p r y := by
  induction x with
  | nil => rfl
  | cons c x ih =>
    obtain ⟨hc, hx⟩ := avoids_cons.mp h
    have hpre : ¬ p.isPrefixOf (c :: (x ++ y)) = true := by rwa [List.isPrefixOf_iff_prefix]
    rw [List.cons_append, replaceAll, replaceFrom, if_neg hpre]
    exact congrArg (List.cons c) (ih hx)

end UptimeAlert.Text
