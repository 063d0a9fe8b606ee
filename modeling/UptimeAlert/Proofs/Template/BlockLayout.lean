import UptimeAlert.Proofs.Template.HiddenBlock
import UptimeAlert.Proofs.Template.Lexeme

namespace UptimeAlert.Status

theorem opposite_ne (s : Status) : s.opposite ≠ s := by
  cases s <;> decide

theorem opposite_opposite (s : Status) : s.opposite.opposite = s := by
  cases s <;> rfl

end UptimeAlert.Status

namespace UptimeAlert.Template.Block

open UptimeAlert.Text

/-- Whether none of the four markers stands in a text. -/
def MarkerFree (cs : List Char) : Prop :=
  ∀ m : Marker, ¬ m.chars <:+: cs

instance (cs : List Char) : Decidable (MarkerFree cs) :=
  decidable_of_iff (∀ s ∈ [Status.up, .down], ¬ opening s <:+: cs ∧ ¬ closing s <:+: cs)
    ⟨fun h m => match m with
      | .opening s => (h s (by cases s <;> decide)).1
      | .closing s => (h s (by cases s <;> decide)).2,
    fun h s _ => ⟨h (.opening s), h (.closing s)⟩⟩

variable {s t : Status} {m : Marker} {before inside after x y : List Char}

theorem MarkerFree.of_infix (h : MarkerFree y) (hin : x <:+: y) : MarkerFree x := by
  intro m hm
  exact h m (hm.trans hin)

/-- A marker beside another one stands in the text before that or in the text after it. -/
theorem infix_of_infix_append_marker (m m' : Marker) (hne : m ≠ m')
    (h : m.chars <:+: x ++ (m'.chars ++ y)) : m.chars <:+: x ∨ m.chars <:+: y := by
  by_cases hx : m.chars <:+: x
  · exact .inl hx
  · rw [m.chars_eq] at hx h ⊢
    rw [m'.chars_eq] at h
    have hname : m.name ≠ m'.name := fun heq => hne (Marker.name_inj heq)
    have hpass : Avoids (placeholder m.name) x (placeholder m'.name ++ y) :=
      avoids_placeholder_append_open m.braceFree_name hx _
    have hnext := infix_of_avoids hpass h
    have hskip := avoids_placeholder m.braceFree_name m'.braceFree_name hname y
    exact .inr (infix_of_avoids hskip hnext)

/-- A block brings no marker but its own into a text. -/
theorem not_infix_blockText (hopen : m ≠ .opening s) (hclose : m ≠ .closing s)
    (hbefore : ¬ m.chars <:+: before) (hinside : ¬ m.chars <:+: inside)
    (hafter : ¬ m.chars <:+: after) : ¬ m.chars <:+: blockText s before inside after := by
  intro h
  have hparts : blockText s before inside after =
      before ++ ((Marker.opening s).chars ++ (inside ++ ((Marker.closing s).chars ++ after))) := by
    simp [blockText, Marker.chars]
  rw [hparts] at h
  rcases infix_of_infix_append_marker _ _ hopen h with h | h
  · exact hbefore h
  · rcases infix_of_infix_append_marker _ _ hclose h with h | h
    · exact hinside h
    · exact hafter h

theorem unwrap_block (hbefore : ¬ opening s <:+: before) (hinside : ¬ closing s <:+: inside)
    (after : List Char) : unwrap s (blockText s before inside after) = before ++ inside ++ after :=
  changeFirst_block hbefore hinside id

/-- Without an end marker after an opening one there is no block to change. -/
theorem changeFirst_of_incomplete {text : List Char}
    (h : ∀ front back, text = front ++ opening s ++ back → ¬ closing s <:+: back)
    (f : List Char → List Char) : changeFirst s f text = text := by
  unfold changeFirst
  cases hopen : cut? (opening s) text with
  | none => rfl
  | some parts =>
    obtain ⟨front, back⟩ := parts
    have hne : closing s ≠ [] := by
      rw [closing_eq]
      exact placeholder_ne_nil _
    have hclose := cut?_eq_none hne (h front back (eq_append_of_cut? hopen))
    simp only [hclose]

/-- A text in which no opening marker is followed by its closing one stays as it is. -/
theorem resolve_of_incomplete {text : List Char}
    (h : ∀ t front back, text = front ++ opening t ++ back → ¬ closing t <:+: back)
    (s : Status) : resolve s text = text := by
  have hremove : remove s.opposite text = text := changeFirst_of_incomplete (h s.opposite) _
  rw [resolve, hremove]
  exact changeFirst_of_incomplete (h s) id

theorem unwrap_of_markerFree (h : MarkerFree x) (s : Status) : unwrap s x = x := by
  apply changeFirst_of_incomplete
  intro front back hx _
  exact h (.opening s) ⟨front, back, hx.symm⟩

variable {own between other rest : List Char}

theorem blockText_next (s t : Status) (before own between other after : List Char) :
    blockText s before own (blockText t between other after) =
      blockText t (blockText s before own between) other after := by
  simp [blockText]

theorem blockText_nested (s t : Status) (before own other rest after : List Char) :
    blockText s before (blockText t own other rest) after =
      blockText t (before ++ opening s ++ own) other (rest ++ closing s ++ after) := by
  simp [blockText]

/-- The block of the verdict stands before the other one. -/
theorem resolve_before (haround : MarkerFree (before ++ between)) (hown : MarkerFree own)
    (hother : MarkerFree other) (s : Status) (after : List Char) :
    resolve s (blockText s before own (blockText s.opposite between other after)) =
      before ++ own ++ between ++ after := by
  have hbefore : MarkerFree before := haround.of_infix (List.prefix_append _ _).isInfix
  have hbetween : MarkerFree between := haround.of_infix (List.suffix_append _ _).isInfix
  have hfirst : ¬ opening s.opposite <:+: blockText s before own between :=
    not_infix_blockText (m := .opening s.opposite) (by simp [s.opposite_ne]) (by simp) (hbefore _)
      (hown _) (hbetween _)
  have hleft : blockText s before own between ++ after =
      blockText s before own (between ++ after) := by
    simp [blockText]
  rw [resolve, blockText_next, remove_block hfirst (hother (.closing s.opposite)), hleft,
    unwrap_block (hbefore (.opening s)) (hown (.closing s)), ← List.append_assoc]

/-- The block of the verdict stands after the other one. -/
theorem resolve_after (haround : MarkerFree (before ++ between)) (hown : MarkerFree own)
    (hother : MarkerFree other) (s : Status) (after : List Char) :
    resolve s.opposite (blockText s before own (blockText s.opposite between other after)) =
      before ++ between ++ other ++ after := by
  have hbefore : MarkerFree before := haround.of_infix (List.prefix_append _ _).isInfix
  have hleft : before ++ blockText s.opposite between other after =
      blockText s.opposite (before ++ between) other after := by
    simp [blockText]
  rw [resolve, s.opposite_opposite, remove_block (hbefore (.opening s)) (hown (.closing s)), hleft,
    unwrap_block (haround (.opening s.opposite)) (hother (.closing s.opposite))]

/-- The other block stands inside the block of the verdict. -/
theorem resolve_around (hbefore : MarkerFree before) (hown : MarkerFree (own ++ rest))
    (hother : MarkerFree other) (s : Status) (after : List Char) :
    resolve s (blockText s before (blockText s.opposite own other rest) after) =
      before ++ own ++ rest ++ after := by
  have hstart : MarkerFree own := hown.of_infix (List.prefix_append _ _).isInfix
  have hfirst : ¬ opening s.opposite <:+: before ++ opening s ++ own := by
    intro h
    rw [List.append_assoc] at h
    have hne : Marker.opening s.opposite ≠ .opening s := by simp [s.opposite_ne]
    rcases infix_of_infix_append_marker _ _ hne h with h | h
    · exact hbefore _ h
    · exact hstart _ h
  have hleft : before ++ opening s ++ own ++ (rest ++ closing s ++ after) =
      blockText s before (own ++ rest) after := by
    simp [blockText]
  rw [resolve, blockText_nested, remove_block hfirst (hother (.closing s.opposite)), hleft,
    unwrap_block (hbefore (.opening s)) (hown (.closing s)), ← List.append_assoc before own rest]

/-- The block of the verdict stands inside the other one and goes with it. -/
theorem resolve_inside (haround : MarkerFree (before ++ after)) (hown : MarkerFree (own ++ rest))
    (hother : MarkerFree other) (s : Status) :
    resolve s.opposite (blockText s before (blockText s.opposite own other rest) after) =
      before ++ after := by
  have hbefore : MarkerFree before := haround.of_infix (List.prefix_append _ _).isInfix
  have hstart : MarkerFree own := hown.of_infix (List.prefix_append _ _).isInfix
  have hend : MarkerFree rest := hown.of_infix (List.suffix_append _ _).isInfix
  have hinside : ¬ closing s <:+: blockText s.opposite own other rest :=
    not_infix_blockText (m := .closing s) (by simp) (by simp [s.opposite_ne.symm]) (hstart _)
      (hother _) (hend _)
  rw [resolve, s.opposite_opposite, remove_block (hbefore (.opening s)) hinside,
    unwrap_of_markerFree haround]

/-- What is left of a text with a block of each verdict, for either verdict: the two blocks stand
side by side, or the one of `s` holds the other. -/
structure ResolvesLayouts (s : Status) (before own between other rest after : List Char) :
    Prop where
  first : resolve s (blockText s before own (blockText s.opposite between other after)) =
    before ++ own ++ between ++ after
  second : resolve s.opposite (blockText s before own (blockText s.opposite between other after)) =
    before ++ between ++ other ++ after
  outer : resolve s (blockText s before (blockText s.opposite own other rest) after) =
    before ++ own ++ rest ++ after
  inner : MarkerFree (before ++ after) →
    resolve s.opposite (blockText s before (blockText s.opposite own other rest) after) =
      before ++ after

/-- Resolving keeps the inside of the block of the verdict and removes the other one, in every
layout of the two and whatever follows them; without a complete block it changes nothing. -/
theorem resolve_layouts (s : Status) (before own between other rest after : List Char)
    (haround : MarkerFree (before ++ between)) (hown : MarkerFree (own ++ rest))
    (hother : MarkerFree other) :
    ResolvesLayouts s before own between other rest after ∧
      ∀ text, (∀ t front back, text = front ++ opening t ++ back → ¬ closing t <:+: back) →
        resolve s text = text := by
  have hbefore : MarkerFree before := haround.of_infix (List.prefix_append _ _).isInfix
  have hstart : MarkerFree own := hown.of_infix (List.prefix_append _ _).isInfix
  refine ⟨?_, fun text h => resolve_of_incomplete h s⟩
  constructor
  · exact resolve_before haround hstart hother s after
  · exact resolve_after haround hstart hother s after
  · exact resolve_around hbefore hown hother s after
  · intro hends
    exact resolve_inside hends hown hother s

/-- Halves of markers stand on both sides of every marker. -/
theorem resolve_layouts_halves :
    let before := "\x7b\x7bIF_".toList
    let own := "\x7b\x7b\x7bEND_".toList
    let between := "UP\x7d \x7b\x7bEND_DOWN".toList
    let other := "\x7dUP\x7d\x7d".toList
    let rest := "DOWN\x7d \x7b".toList
    let after := "\x7d\x7d".toList
    MarkerFree (before ++ between) ∧ MarkerFree (own ++ rest) ∧ MarkerFree other ∧
      MarkerFree (before ++ after) ∧ ResolvesLayouts .down before own between other rest after ∧
      ∀ text, (∀ t front back, text = front ++ opening t ++ back → ¬ closing t <:+: back) →
        resolve .down text = text := by
  intro before own between other rest after
  have haround : MarkerFree (before ++ between) := by decide
  have hown : MarkerFree (own ++ rest) := by decide
  have hother : MarkerFree other := by decide
  have hends : MarkerFree (before ++ after) := by decide
  exact ⟨haround, hown, hother, hends,
    resolve_layouts .down before own between other rest after haround hown hother⟩

end UptimeAlert.Template.Block
