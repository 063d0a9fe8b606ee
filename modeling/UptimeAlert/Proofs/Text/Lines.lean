import Mathlib.Data.List.Basic
import Mathlib.Data.Nat.Init
import UptimeAlert.Text.Lines

namespace UptimeAlert.Text

/-- The ten characters that end a line. -/
def lineBoundaries : List Char :=
  ['\n', '\r', '\x0b', '\x0c', '\x1c', '\x1d', '\x1e', '\u0085', '\u2028', '\u2029']

theorem isLineBoundary_iff {c : Char} : isLineBoundary c = true ↔ c ∈ lineBoundaries := by
  have hcodes : c ∈ lineBoundaries ↔ c.toNat ∈ lineBoundaries.map Char.toNat := by
    rw [List.mem_map_of_injective fun _ _ h => Char.toNat_inj.mp h]
  have hlist : lineBoundaries.map Char.toNat =
      [10, 13, 11, 12, 0x1C, 0x1D, 0x1E, 0x85, 0x2028, 0x2029] := by decide
  simp only [hcodes, hlist, isLineBoundary, List.mem_cons, List.not_mem_nil, or_false,
    Bool.or_eq_true, Bool.and_eq_true, decide_eq_true_eq, beq_iff_eq]
  omega

/-- What separates two lines: a boundary, or a carriage return together with a line feed. -/
def IsBreak (b : List Char) : Prop :=
  b = ['\r', '\n'] ∨ ∃ c ∈ lineBoundaries, b = [c]

/-- Whether `line` is a text with a space for each break and nothing for a break at its very end. A
carriage return before a line feed is no break of its own. -/
inductive Joins : List Char → List Char → Prop where
  | nil : Joins [] []
  | char {c : Char} {cs line : List Char} (hc : c ∉ lineBoundaries) (h : Joins cs line) :
    Joins (c :: cs) (c :: line)
  | final {b : List Char} (hb : IsBreak b) : Joins b []
  | inner {b cs line : List Char} (hb : IsBreak b) (hne : cs ≠ [])
    (hwhole : b = ['\r'] → cs.head? ≠ some '\n') (h : Joins cs line) : Joins (b ++ cs) (' ' :: line)

variable {c : Char} {b cs line : List Char}

/-- A line break ends a line; one of two characters counts once. -/
theorem splitLines_break (hb : IsBreak b) (hwhole : b = ['\r'] → cs.head? ≠ some '\n') :
    splitLines (b ++ cs) = [] :: splitLines cs := by
  rcases hb with rfl | ⟨c, hc, rfl⟩
  · rfl
  · have hboundary := isLineBoundary_iff.mpr hc
    rw [List.singleton_append]
    cases cs with
    | nil => simp [splitLines, hboundary]
    | cons d cs =>
      have hpair : c = '\r' → d ≠ '\n' := fun hreturn hfeed => by simp_all
      rw [splitLines]
      · rw [if_pos hboundary]
      · intro cs' hreturn hrest
        exact hpair hreturn (List.cons.inj hrest).1

theorem splitLines_char (hc : c ∉ lineBoundaries) (cs : List Char) :
    splitLines (c :: cs) = (c :: (splitLines cs).headD []) :: (splitLines cs).tail := by
  have hboundary : ¬ isLineBoundary c = true := fun h => hc (isLineBoundary_iff.mp h)
  have hreturn : c ≠ '\r' := by
    rintro rfl
    exact hc (by decide)
  rw [splitLines]
  · rw [if_neg hboundary]
    cases splitLines cs <;> rfl
  · intro cs' h _
    exact hreturn h

theorem exists_break (hc : c ∈ lineBoundaries) (cs : List Char) :
    ∃ b rest, c :: cs = b ++ rest ∧ IsBreak b ∧ (b = ['\r'] → rest.head? ≠ some '\n') ∧
      rest.length < (c :: cs).length := by
  by_cases hpair : c = '\r' ∧ cs.head? = some '\n'
  · obtain ⟨rfl, hhead⟩ := hpair
    obtain ⟨rest, rfl⟩ := List.head?_eq_some_iff.mp hhead
    exact ⟨['\r', '\n'], rest, rfl, .inl rfl, by simp, by simp only [List.length_cons]; omega⟩
  · refine ⟨[c], cs, rfl, .inr ⟨c, hc, rfl⟩, fun hreturn hfeed => ?_, by simp⟩
    exact hpair ⟨(List.cons.inj hreturn).1, hfeed⟩

/-- Induction on the characters and breaks of a text. -/
theorem breaks_induction {motive : List Char → Prop} (nil : motive [])
    (char : ∀ c cs, c ∉ lineBoundaries → motive cs → motive (c :: cs))
    (inner : ∀ b cs, IsBreak b → (b = ['\r'] → cs.head? ≠ some '\n') → motive cs →
      motive (b ++ cs))
    (cs : List Char) : motive cs := by
  induction hn : cs.length using Nat.strong_induction_on generalizing cs with
  | _ n ih =>
    subst hn
    cases cs with
    | nil => exact nil
    | cons c cs =>
      by_cases hc : c ∈ lineBoundaries
      · obtain ⟨b, rest, heq, hb, hwhole, hlt⟩ := exists_break hc cs
        rw [heq]
        exact inner b rest hb hwhole (ih rest.length hlt rest rfl)
      · exact char c cs hc (ih cs.length (by simp) cs rfl)

theorem splitLines_eq_nil_iff : splitLines cs = [] ↔ cs = [] := by
  induction cs using breaks_induction with
  | nil => exact iff_of_true rfl rfl
  | char c cs hc _ => simp [splitLines_char hc]
  | inner b cs hb hwhole _ =>
    have hb' : b ≠ [] := by rcases hb with rfl | ⟨c, -, rfl⟩ <;> simp
    simp [splitLines_break hb hwhole, hb']

theorem flatten_char (hc : c ∉ lineBoundaries) (cs : List Char) :
    flatten (c :: cs) = c :: flatten cs := by
  rw [flatten, flatten, splitLines_char hc]
  cases splitLines cs with
  | nil => rfl
  | cons line lines => cases lines <;> simp [List.intercalate_cons_cons]

theorem flatten_break (hb : IsBreak b) (hwhole : b = ['\r'] → cs.head? ≠ some '\n') :
    flatten (b ++ cs) = if cs = [] then [] else ' ' :: flatten cs := by
  rw [flatten, flatten, splitLines_break hb hwhole]
  split
  · next hnil =>
    rw [hnil]
    rfl
  · next hne =>
    obtain ⟨line, lines, hlines⟩ :=
      List.exists_cons_of_ne_nil (mt splitLines_eq_nil_iff.mp hne)
    rw [hlines, List.intercalate_cons_cons]
    rfl

/-- What joining leaves is told by the breaks of the text. -/
theorem joins_iff : Joins cs line ↔ line = flatten cs := by
  constructor
  · intro h
    induction h with
    | nil => rfl
    | char hc _ ih => rw [flatten_char hc, ih]
    | final hb =>
      have hlast := flatten_break hb fun _ => show ([] : List Char).head? ≠ some '\n' by simp
      rwa [List.append_nil, if_pos rfl, eq_comm] at hlast
    | inner hb hne hwhole _ ih => rw [flatten_break hb hwhole, if_neg hne, ih]
  · rintro rfl
    induction cs using breaks_induction with
    | nil => exact .nil
    | char c cs hc ih =>
      rw [flatten_char hc]
      exact .char hc ih
    | inner b cs hb hwhole ih =>
      rw [flatten_break hb hwhole]
      split
      · next hnil =>
        rw [hnil, List.append_nil]
        exact .final hb
      · next hne => exact .inner hb hne hwhole ih

theorem Joins.not_mem_boundaries (h : Joins cs line) : ∀ c ∈ line, c ∉ lineBoundaries := by
  induction h with
  | nil => simp
  | char hc _ ih => exact List.forall_mem_cons.mpr ⟨hc, ih⟩
  | final _ => simp
  | inner _ _ _ _ ih => exact List.forall_mem_cons.mpr ⟨by decide, ih⟩

theorem flatten_eq_self (h : ∀ c ∈ cs, c ∉ lineBoundaries) : flatten cs = cs := by
  induction cs with
  | nil => rfl
  | cons c cs ih =>
    obtain ⟨hc, hcs⟩ := List.forall_mem_cons.mp h
    rw [flatten_char hc, ih hcs]

theorem not_mem_flatten (cs : List Char) : ∀ c ∈ flatten cs, c ∉ lineBoundaries :=
  (joins_iff.mpr rfl).not_mem_boundaries

/-- Exactly the texts without boundaries are left as they are. -/
theorem flatten_eq_self_iff : flatten cs = cs ↔ ∀ c ∈ cs, c ∉ lineBoundaries :=
  ⟨fun h => h ▸ not_mem_flatten cs, flatten_eq_self⟩

theorem flatten_flatten (cs : List Char) : flatten (flatten cs) = flatten cs :=
  flatten_eq_self_iff.mpr (not_mem_flatten cs)

theorem length_splitLines_le_one (h : ∀ c ∈ cs, c ∉ lineBoundaries) :
    (splitLines cs).length ≤ 1 := by
  induction cs with
  | nil => simp [splitLines]
  | cons c cs ih =>
    obtain ⟨hc, hcs⟩ := List.forall_mem_cons.mp h
    have hrest := ih hcs
    rw [splitLines_char hc, List.length_cons, List.length_tail]
    omega

end UptimeAlert.Text
