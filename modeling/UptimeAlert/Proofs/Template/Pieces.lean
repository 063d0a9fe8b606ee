import UptimeAlert.Proofs.Text.Occurrence
import UptimeAlert.Template.Substitution

namespace UptimeAlert.Template

open UptimeAlert.Text

/-- What a scan looks for: the hit that a text begins with, which is never empty. -/
structure Matcher where
  at? : List Char → Option (List Char)
  begins : ∀ cs t, at? cs = some t → t <+: cs
  ne_nil : ∀ cs t, at? cs = some t → t ≠ []

/-- The text that pieces were cut from. -/
def source (ps : List Piece) : List Char :=
  assemble id ps

@[simp] theorem assemble_nil (f : List Char → List Char) : assemble f [] = [] := rfl

@[simp] theorem assemble_literal (f : List Char → List Char) (c : Char) (ps : List Piece) :
    assemble f (.literal c :: ps) = c :: assemble f ps := rfl

@[simp] theorem assemble_token (f : List Char → List Char) (t : List Char) (ps : List Piece) :
    assemble f (.token t :: ps) = f t ++ assemble f ps := rfl

@[simp] theorem assemble_append (f : List Char → List Char) (ps qs : List Piece) :
    assemble f (ps ++ qs) = assemble f ps ++ assemble f qs :=
  List.flatMap_append

@[simp] theorem assemble_literals (f : List Char → List Char) (cs : List Char) :
    assemble f (cs.map .literal) = cs := by
  induction cs with
  | nil => rfl
  | cons c cs ih => simp [ih]

theorem source_token (t : List Char) (ps : List Piece) :
    source (.token t :: ps) = t ++ source ps := rfl

theorem source_literals (cs : List Char) : source (cs.map .literal) = cs :=
  assemble_literals id cs

theorem source_append (ps qs : List Piece) : source (ps ++ qs) = source ps ++ source qs :=
  assemble_append id ps qs

theorem assemble_congr {f g : List Char → List Char} {ps : List Piece}
    (h : ∀ t, .token t ∈ ps → f t = g t) : assemble f ps = assemble g ps := by
  induction ps with
  | nil => rfl
  | cons p ps ih =>
    have hrest := ih fun t ht => h t (List.mem_cons_of_mem p ht)
    cases p with
    | literal c => exact congrArg (List.cons c) hrest
    | token t => rw [assemble_token, assemble_token, h t List.mem_cons_self, hrest]

/-- Texts that differ, and neither of which begins with the other, differ whatever follows them. -/
theorem assemble_eq_iff {f g : List Char → List Char} {ps : List Piece}
    (h : ∀ t, .token t ∈ ps → f t = g t ∨ ¬ f t <+: g t ∧ ¬ g t <+: f t) :
    assemble f ps = assemble g ps ↔ ∀ t, .token t ∈ ps → f t = g t := by
  refine ⟨fun heq => ?_, assemble_congr⟩
  induction ps with
  | nil => nofun
  | cons piece ps ih =>
    have hrest := ih fun t ht => h t (List.mem_cons_of_mem piece ht)
    cases piece with
    | literal c =>
      have htail := hrest (List.cons.inj heq).2
      simpa using htail
    | token t =>
      rw [assemble_token, assemble_token] at heq
      rcases h t List.mem_cons_self with hsame | ⟨hfg, hgf⟩
      · rw [hsame] at heq
        have htail := hrest (List.append_cancel_left heq)
        simpa [hsame] using htail
      · have hg : g t <+: f t ++ assemble f ps := ⟨_, heq.symm⟩
        rcases List.prefix_or_prefix_of_prefix (List.prefix_append _ _) hg with hin | hin
        · exact absurd hin hfg
        · exact absurd hin hgf

/-- Two tokens of a text are one and the same, or one of them ends before the other begins. -/
theorem tokens_apart {front front' back back' : List Piece} {t t' : List Char}
    (h : front ++ .token t :: back = front' ++ .token t' :: back') :
    source front = source front' ∧ t = t' ∨
      source front ++ t <+: source front' ∨ source front' ++ t' <+: source front := by
  rcases List.append_eq_append_iff.mp h with ⟨mid, rfl, hmid⟩ | ⟨mid, rfl, hmid⟩
  · cases mid with
    | nil =>
      cases hmid
      exact .inl ⟨by rw [List.append_nil], rfl⟩
    | cons piece mid =>
      obtain ⟨rfl, -⟩ := List.cons.inj hmid
      refine .inr (.inl ⟨source mid, ?_⟩)
      rw [source_append, source_token, List.append_assoc]
  · cases mid with
    | nil =>
      cases hmid
      exact .inl ⟨by rw [List.append_nil], rfl⟩
    | cons piece mid =>
      obtain ⟨rfl, -⟩ := List.cons.inj hmid
      refine .inr (.inr ⟨source mid, ?_⟩)
      rw [source_append, source_token, List.append_assoc]

namespace Matcher

variable (m : Matcher)

/-- Cuts a text into pieces; the number counts the characters of a hit that are still to be passed
over. -/
def piecesFrom (m : Matcher) : Nat → List Char → List Piece
  | _, [] => []
  | k + 1, _ :: cs => piecesFrom m k cs
  | 0, c :: cs =>
    match m.at? (c :: cs) with
    | some t => .token t :: piecesFrom m (t.length - 1) cs
    | none => .literal c :: piecesFrom m 0 cs

def pieces (cs : List Char) : List Piece :=
  m.piecesFrom 0 cs

/-- Whether pieces are those of a scan: each token is the hit at its place, and no hit begins at a
literal. -/
def IsScan (m : Matcher) : List Piece → Prop
  | [] => True
  | .literal c :: ps => m.at? (c :: source ps) = none ∧ IsScan m ps
  | .token t :: ps => m.at? (t ++ source ps) = some t ∧ IsScan m ps

theorem isScan_of_cons {piece : Piece} {ps : List Piece} (h : m.IsScan (piece :: ps)) :
    m.IsScan ps := by
  cases piece with
  | literal c => exact h.2
  | token t => exact h.2

theorem isScan_of_append {ps qs : List Piece} (h : m.IsScan (ps ++ qs)) : m.IsScan qs := by
  induction ps with
  | nil => exact h
  | cons piece ps ih => exact ih (m.isScan_of_cons h)

@[simp] theorem pieces_nil : m.pieces [] = [] := rfl

theorem piecesFrom_eq_drop (k : Nat) (cs : List Char) :
    m.piecesFrom k cs = m.pieces (cs.drop k) := by
  induction k generalizing cs with
  | zero => rfl
  | succ k ih =>
    cases cs with
    | nil => simp [piecesFrom, pieces]
    | cons c cs => simp [piecesFrom, ih cs]

theorem pieces_literal {c : Char} {cs : List Char} (h : m.at? (c :: cs) = none) :
    m.pieces (c :: cs) = .literal c :: m.pieces cs := by
  simp [pieces, piecesFrom, h]

theorem pieces_token {t cs : List Char} (h : m.at? (t ++ cs) = some t) :
    m.pieces (t ++ cs) = .token t :: m.pieces cs := by
  obtain ⟨c, t, rfl⟩ := List.exists_cons_of_ne_nil (m.ne_nil _ t h)
  rw [List.cons_append] at h ⊢
  rw [pieces, piecesFrom, h]
  simp [piecesFrom_eq_drop]

theorem exists_rest {cs t : List Char} (h : m.at? cs = some t) :
    ∃ rest, cs = t ++ rest ∧ rest.length < cs.length := by
  obtain ⟨rest, rfl⟩ := m.begins cs t h
  have hpos := List.length_pos_iff.mpr (m.ne_nil _ t h)
  exact ⟨rest, rfl, by simpa using hpos⟩

/-- A scan loses nothing, and it takes every hit that it meets. -/
theorem scan_pieces (cs : List Char) :
    source (m.pieces cs) = cs ∧ m.IsScan (m.pieces cs) := by
  induction hn : cs.length using Nat.strong_induction_on generalizing cs with
  | _ n ih =>
    subst hn
    cases cs with
    | nil => exact ⟨rfl, trivial⟩
    | cons c cs =>
      cases h : m.at? (c :: cs) with
      | none =>
        obtain ⟨hsource, hscan⟩ := ih cs.length (by simp) cs rfl
        rw [m.pieces_literal h]
        exact ⟨congrArg (List.cons c) hsource, by rwa [hsource], hscan⟩
      | some t =>
        obtain ⟨rest, heq, hlt⟩ := m.exists_rest h
        obtain ⟨hsource, hscan⟩ := ih rest.length hlt rest rfl
        rw [heq] at h ⊢
        rw [m.pieces_token h]
        exact ⟨congrArg (t ++ ·) hsource, by rwa [hsource], hscan⟩

theorem source_pieces (cs : List Char) : source (m.pieces cs) = cs :=
  (m.scan_pieces cs).1

theorem isScan_pieces (cs : List Char) : m.IsScan (m.pieces cs) :=
  (m.scan_pieces cs).2

theorem exists_at?_of_mem {ps : List Piece} {t : List Char} (h : m.IsScan ps)
    (ht : .token t ∈ ps) : ∃ cs, m.at? cs = some t := by
  induction ps with
  | nil => cases ht
  | cons p ps ih =>
    cases p with
    | literal c => exact ih h.2 (by simpa using ht)
    | token u =>
      rcases List.mem_cons.mp ht with heq | ht
      · cases heq
        exact ⟨_, h.1⟩
      · exact ih h.2 ht

/-- A scan of two texts is one of each where no hit of the first text depends on the second. -/
theorem pieces_append {x y : List Char}
    (h : ∀ s, s <:+ x → s ≠ [] → m.at? (s ++ y) = m.at? s) :
    m.pieces (x ++ y) = m.pieces x ++ m.pieces y := by
  induction hn : x.length using Nat.strong_induction_on generalizing x with
  | _ n ih =>
    subst hn
    cases x with
    | nil => rfl
    | cons c x =>
      have hx := h (c :: x) List.suffix_rfl (by simp)
      cases hc : m.at? (c :: x) with
      | none =>
        rw [hc] at hx
        have hrest := ih x.length (by simp)
          (fun s hs hne => h s (hs.trans (List.suffix_cons c x)) hne) rfl
        rw [List.cons_append] at hx ⊢
        rw [m.pieces_literal hx, m.pieces_literal hc, hrest, List.cons_append]
      | some t =>
        rw [hc] at hx
        obtain ⟨rest, heq, hlt⟩ := m.exists_rest hc
        have hrest := ih rest.length hlt
          (fun s hs hne => h s (hs.trans ⟨t, heq.symm⟩) hne) rfl
        rw [heq, List.append_assoc] at hx
        rw [heq] at hc
        rw [heq, List.append_assoc, m.pieces_token hx, m.pieces_token hc, hrest,
          List.cons_append]

theorem pieces_literals {x y : List Char}
    (h : ∀ s, s <:+ x → s ≠ [] → m.at? (s ++ y) = none) :
    m.pieces (x ++ y) = x.map .literal ++ m.pieces y := by
  induction x with
  | nil => rfl
  | cons c x ih =>
    have hc := h (c :: x) List.suffix_rfl (by simp)
    rw [List.cons_append] at hc ⊢
    rw [m.pieces_literal hc, ih fun s hs hne => h s (hs.trans (List.suffix_cons c x)) hne]
    rfl

end Matcher

end UptimeAlert.Template
