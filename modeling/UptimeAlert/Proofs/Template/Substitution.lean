import UptimeAlert.Proofs.Template.Placeholder

namespace UptimeAlert.Template

open UptimeAlert.Text

theorem longer_eq_some (t : List Char) (best : Option (List Char)) :
    ∃ u, longer t best = some u ∧ (u = t ∨ best = some u) ∧ t.length ≤ u.length ∧
      ∀ b, best = some b → b.length ≤ u.length := by
  cases best with
  | none => exact ⟨t, rfl, .inl rfl, le_rfl, by simp⟩
  | some b =>
    by_cases h : b.length < t.length
    · exact ⟨t, by simp [longer, h], .inl rfl, le_rfl, by simpa using h.le⟩
    · exact ⟨b, by simp [longer, h], .inr rfl, by omega, by simp⟩

theorem longestAt?_cons (u : List Char) (tokens : List (List Char)) (cs : List Char) :
    longestAt? (u :: tokens) cs =
      if u ≠ [] ∧ u <+: cs then longer u (longestAt? tokens cs) else longestAt? tokens cs := by
  simp [longestAt?]

/-- No token is found exactly where none but the empty one begins. -/
theorem longestAt?_eq_none_iff {tokens : List (List Char)} {cs : List Char} :
    longestAt? tokens cs = none ↔ ∀ u ∈ tokens, u ≠ [] → ¬ u <+: cs := by
  induction tokens with
  | nil => simp [longestAt?]
  | cons u tokens ih =>
    rw [longestAt?_cons]
    by_cases hu : u ≠ [] ∧ u <+: cs
    · obtain ⟨w, hw, -⟩ := longer_eq_some u (longestAt? tokens cs)
      rw [if_pos hu, hw]
      refine ⟨fun h => (by cases h), fun h => absurd hu.2 (h u List.mem_cons_self hu.1)⟩
    · rw [if_neg hu, ih, List.forall_mem_cons]
      exact ⟨fun h => ⟨fun hne hpre => hu ⟨hne, hpre⟩, h⟩, fun h => h.2⟩

/-- The token found is one of the tokens and begins the text, and no longer one does. -/
theorem longestAt?_eq_some {tokens : List (List Char)} {cs t : List Char}
    (h : longestAt? tokens cs = some t) :
    t ∈ tokens ∧ t ≠ [] ∧ t <+: cs ∧ ∀ u ∈ tokens, u <+: cs → u.length ≤ t.length := by
  induction tokens generalizing t with
  | nil => cases h
  | cons u tokens ih =>
    rw [longestAt?_cons] at h
    by_cases hu : u ≠ [] ∧ u <+: cs
    · rw [if_pos hu] at h
      obtain ⟨w, hw, hor, hlen, hbest⟩ := longer_eq_some u (longestAt? tokens cs)
      obtain rfl : w = t := by simpa [hw] using h
      have hmax : ∀ v ∈ u :: tokens, v <+: cs → v.length ≤ w.length := by
        intro v hv hpre
        rcases List.mem_cons.mp hv with rfl | hv
        · exact hlen
        · cases hrest : longestAt? tokens cs with
          | none =>
            by_contra hlt
            have hne : v ≠ [] := by
              rintro rfl
              simp at hlt
            exact longestAt?_eq_none_iff.mp hrest v hv hne hpre
          | some b => exact ((ih hrest).2.2.2 v hv hpre).trans (hbest b hrest)
      rcases hor with rfl | hrest
      · exact ⟨List.mem_cons_self, hu.1, hu.2, hmax⟩
      · obtain ⟨hmem, hne, hpre, -⟩ := ih hrest
        exact ⟨List.mem_cons_of_mem u hmem, hne, hpre, hmax⟩
    · rw [if_neg hu] at h
      obtain ⟨hmem, hne, hpre, hmax⟩ := ih h
      refine ⟨List.mem_cons_of_mem u hmem, hne, hpre, fun v hv hvpre => ?_⟩
      rcases List.mem_cons.mp hv with rfl | hv
      · obtain rfl : v = [] := by
          by_contra hv
          exact hu ⟨hv, hvpre⟩
        simp
      · exact hmax v hv hvpre

/-- Finds the longest of some tokens. -/
def Matcher.ofTokens (tokens : List (List Char)) : Matcher where
  at? := longestAt? tokens
  begins _ _ h := (longestAt?_eq_some h).2.2.1
  ne_nil _ _ h := (longestAt?_eq_some h).2.1

/-- The scan writes the pieces of its tokens, so what holds of pieces holds of it. -/
theorem scanFrom_eq_piecesFrom {tokens : List (List Char)} (h : [] ∉ tokens) (k : Nat)
    (cs : List Char) : scanFrom tokens k cs = (Matcher.ofTokens tokens).piecesFrom k cs := by
  have hempty : emptyToken tokens = [] := by simp [emptyToken, h]
  induction cs generalizing k with
  | nil => cases k <;> simp [scanFrom, Matcher.piecesFrom, hempty]
  | cons c cs ih =>
    cases k with
    | succ k => simpa [scanFrom, Matcher.piecesFrom] using ih k
    | zero =>
      have hat : (Matcher.ofTokens tokens).at? (c :: cs) = longestAt? tokens (c :: cs) := rfl
      cases hc : longestAt? tokens (c :: cs) with
      | none => simp [scanFrom, Matcher.piecesFrom, hat, hc, hempty, ih]
      | some t => simp [scanFrom, Matcher.piecesFrom, hat, hc, ih]

theorem scan_eq_pieces {tokens : List (List Char)} (h : [] ∉ tokens) (text : List Char) :
    scan tokens text = (Matcher.ofTokens tokens).pieces text :=
  scanFrom_eq_piecesFrom h 0 text

theorem Dictionary.mem_tokens_iff {d : Dictionary} {t : List Char} :
    t ∈ d.tokens ↔ ∃ key v, (key, v) ∈ d ∧ t = key.toList := by
  simp [tokens, eq_comm]

theorem Dictionary.substitute_eq_pieces {d : Dictionary} (h : [] ∉ d.tokens)
    (missing text : List Char) :
    d.substitute missing text =
      assemble (d.valueText missing) ((Matcher.ofTokens d.tokens).pieces text) := by
  rw [substitute, scan_eq_pieces h]

theorem mem_tokens_of_isScan {tokens : List (List Char)} {ps : List Piece} {t : List Char}
    (h : (Matcher.ofTokens tokens).IsScan ps) (ht : .token t ∈ ps) : t ∈ tokens := by
  obtain ⟨cs, hcs⟩ := Matcher.exists_at?_of_mem _ h ht
  exact (longestAt?_eq_some hcs).1

/-- A text in which no token occurs is cut into single characters. -/
theorem pieces_of_tokenFree {tokens : List (List Char)} {text : List Char}
    (h : ∀ t ∈ tokens, ¬ t <:+: text) :
    (Matcher.ofTokens tokens).pieces text = text.map .literal := by
  have hliterals := (Matcher.ofTokens tokens).pieces_literals (x := text) (y := [])
  rw [List.append_nil, Matcher.pieces_nil, List.append_nil] at hliterals
  apply hliterals
  intro s hs _
  rw [List.append_nil]
  apply longestAt?_eq_none_iff.mpr
  intro u hu _ hpre
  exact h u hu (hpre.isInfix.trans hs.isInfix)

/-- Whether all tokens are placeholders of names without braces. -/
def Tokens (tokens : List (List Char)) : Prop :=
  ∀ t ∈ tokens, ∃ name, BraceFree name ∧ t = placeholder name

variable {tokens : List (List Char)}

theorem Tokens.nil_not_mem (h : Tokens tokens) : [] ∉ tokens := by
  intro hmem
  obtain ⟨name, -, hnil⟩ := h [] hmem
  exact placeholder_ne_nil name hnil.symm

theorem Tokens.longestAt?_append (h : Tokens tokens) {t : List Char} (ht : t ∈ tokens)
    (y : List Char) : longestAt? tokens (t ++ y) = some t := by
  obtain ⟨name, hname, rfl⟩ := h t ht
  cases hfound : longestAt? tokens (placeholder name ++ y) with
  | none =>
    exact absurd (List.prefix_append _ _)
      (longestAt?_eq_none_iff.mp hfound _ ht (placeholder_ne_nil name))
  | some u =>
    obtain ⟨hu, -, hpre, -⟩ := longestAt?_eq_some hfound
    obtain ⟨w, hw, rfl⟩ := h u hu
    rw [(placeholder_prefix_iff hw hname y).mp hpre]

theorem Tokens.braced (h : Tokens tokens) : (Matcher.ofTokens tokens).Braced where
  shape _ t ht := h t (longestAt?_eq_some ht).1
  kept _ _ ht y := h.longestAt?_append (longestAt?_eq_some ht).1 y

/-- A placeholder is found exactly where it is one of the tokens. -/
theorem Tokens.at?_placeholder (h : Tokens tokens) {w : List Char} (hw : BraceFree w) :
    ((Matcher.ofTokens tokens).at? (placeholder w)).isSome ↔ placeholder w ∈ tokens := by
  constructor
  · intro hsome
    obtain ⟨t, ht⟩ := Option.isSome_iff_exists.mp hsome
    obtain ⟨hmem, -, hpre, -⟩ := longestAt?_eq_some ht
    obtain ⟨name, hname, rfl⟩ := h t hmem
    obtain rfl : name = w := (placeholder_prefix_iff hname hw []).mp (by simpa using hpre)
    exact hmem
  · intro hmem
    have hfound := h.longestAt?_append hmem []
    rw [List.append_nil] at hfound
    exact Option.isSome_iff_exists.mpr ⟨_, hfound⟩

end UptimeAlert.Template
