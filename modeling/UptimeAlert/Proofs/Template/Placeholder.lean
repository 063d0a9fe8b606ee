import Mathlib.Data.List.TakeWhile
import UptimeAlert.Proofs.Template.Pieces
import UptimeAlert.Template.Placeholder

namespace UptimeAlert.Template

open UptimeAlert.Text

/-- A text in which no brace stands. -/
def BraceFree (cs : List Char) : Prop :=
  '{' ∉ cs ∧ '}' ∉ cs

instance (cs : List Char) : Decidable (BraceFree cs) :=
  inferInstanceAs (Decidable (_ ∧ _))

theorem placeholder_ne_nil (name : List Char) : placeholder name ≠ [] := by
  simp [placeholder]

theorem placeholder_prefix_iff {n w : List Char} (hn : BraceFree n) (hw : BraceFree w)
    (y : List Char) : placeholder n <+: placeholder w ++ y ↔ n = w := by
  constructor
  · rintro ⟨r, hr⟩
    have hnames : n ++ '}' :: ('}' :: r) = w ++ '}' :: ('}' :: y) := by
      simpa [placeholder] using hr
    rw [← takeWhile_append_self hn.2 ('}' :: r), hnames, takeWhile_append_self hw.2]
  · rintro rfl
    exact List.prefix_append _ _

theorem placeholder_inj {n w : List Char} (h : placeholder n = placeholder w) : n = w := by
  simpa [placeholder] using h

theorem avoids_plain {x : List Char} (hx : BraceFree x) (n y : List Char) :
    Avoids (placeholder n) x y :=
  avoids_of_not_mem hx.1

theorem not_prefix_single {n w : List Char} (hw : BraceFree w) (y : List Char) :
    ¬ placeholder n <+: '{' :: (w ++ '}' :: y) := by
  intro h
  have htail : '{' :: (n ++ ['}', '}']) <+: w ++ '}' :: y := (List.cons_prefix_cons.mp h).2
  cases w with
  | nil => simp at htail
  | cons c w =>
    have hc : '{' = c := (List.cons_prefix_cons.mp htail).1
    exact hw.1 (List.mem_cons.mpr (.inl hc))

theorem avoids_placeholder_tail {w : List Char} (hw : BraceFree w) (n y : List Char) :
    Avoids (placeholder n) ('{' :: (w ++ ['}', '}'])) y := by
  have hrest : '{' ∉ w ++ ['}', '}'] := by simpa using hw.1
  have hsecond : ¬ placeholder n <+: '{' :: (w ++ ['}', '}'] ++ y) := by
    simpa using not_prefix_single hw ('}' :: y)
  rw [avoids_cons]
  exact ⟨hsecond, avoids_of_not_mem hrest⟩

/-- In a placeholder no other one begins, whatever follows. -/
theorem avoids_placeholder {n w : List Char} (hn : BraceFree n) (hw : BraceFree w) (hne : n ≠ w)
    (y : List Char) : Avoids (placeholder n) (placeholder w) y := by
  have hfirst : ¬ placeholder n <+: placeholder w ++ y :=
    fun h => hne ((placeholder_prefix_iff hn hw y).mp h)
  change Avoids (placeholder n) ('{' :: '{' :: (w ++ ['}', '}'])) y
  rw [avoids_cons]
  exact ⟨by simpa [placeholder] using hfirst, avoids_placeholder_tail hw n y⟩

/-- What opens with its only braces and begins before opening braces ends before them. -/
theorem prefix_of_prefix_append_open {w s y : List Char} (hw : '{' ∉ w) (hne : w ≠ [])
    (hs : s ≠ []) (h : '{' :: '{' :: w <+: s ++ '{' :: '{' :: y) : '{' :: '{' :: w <+: s := by
  obtain ⟨r, hr⟩ := h
  rcases List.append_eq_append_iff.mp hr with ⟨v, hv, -⟩ | ⟨v, hv, hvr⟩
  · exact ⟨v, hv.symm⟩
  · cases v with
    | nil => exact ⟨[], by simpa using hv⟩
    | cons c v =>
      -- a further opening brace can only be the second one, and then none follows it
      exfalso
      obtain ⟨rfl, htail⟩ : '{' = c ∧ '{' :: y = v ++ r := by simpa using hvr
      match s, hs with
      | [d], _ =>
        obtain ⟨-, rfl⟩ : '{' = d ∧ w = v := by simpa using hv
        obtain ⟨e, w, rfl⟩ := List.exists_cons_of_ne_nil hne
        exact hw (List.mem_cons.mpr (.inl (List.cons.inj htail).1))
      | d :: e :: s, _ =>
        obtain ⟨-, -, rfl⟩ : '{' = d ∧ '{' = e ∧ w = s ++ '{' :: v := by simpa using hv
        exact hw (by simp)

theorem avoids_append_open {w x : List Char} (hw : '{' ∉ w) (hne : w ≠ [])
    (h : ¬ '{' :: '{' :: w <:+: x) (y : List Char) :
    Avoids ('{' :: '{' :: w) x ('{' :: '{' :: y) := by
  intro s hs hsne hpre
  exact h ((prefix_of_prefix_append_open hw hne hsne hpre).isInfix.trans hs.isInfix)

theorem avoids_placeholder_append_open {n x : List Char} (hn : BraceFree n)
    (h : ¬ placeholder n <:+: x) (y : List Char) :
    Avoids (placeholder n) x ('{' :: '{' :: y) :=
  avoids_append_open (by simpa using hn.1) (by simp) h y

namespace Matcher

/-- Whether all that a matcher finds are placeholders of names without braces, found wherever they
stand. -/
structure Braced (m : Matcher) : Prop where
  shape : ∀ cs t, m.at? cs = some t → ∃ name, BraceFree name ∧ t = placeholder name
  kept : ∀ cs t, m.at? cs = some t → ∀ y, m.at? (t ++ y) = some t

variable {m : Matcher}

namespace Braced

theorem at?_eq_none (hm : m.Braced) {x y : List Char}
    (h : ∀ name, BraceFree name → m.at? (placeholder name) ≠ none → ¬ placeholder name <+: x ++ y) :
    m.at? (x ++ y) = none := by
  rw [Option.eq_none_iff_forall_ne_some]
  intro t ht
  obtain ⟨name, hname, rfl⟩ := hm.shape _ _ ht
  have hown := hm.kept _ _ ht []
  rw [List.append_nil] at hown
  exact h name hname (by simp [hown]) (m.begins _ _ ht)

theorem at?_plain (hm : m.Braced) {x : List Char} (hx : BraceFree x) : m.at? x = none := by
  rw [Option.eq_none_iff_forall_ne_some]
  intro t ht
  obtain ⟨name, -, rfl⟩ := hm.shape _ _ ht
  exact hx.1 ((m.begins _ _ ht).subset List.mem_cons_self)

theorem pieces_plain (hm : m.Braced) {x : List Char} (hx : BraceFree x) (y : List Char) :
    m.pieces (x ++ y) = x.map .literal ++ m.pieces y := by
  apply m.pieces_literals
  intro s hs hne
  exact hm.at?_eq_none fun name _ _ => avoids_plain hx name y s hs hne

/-- A scan takes a placeholder as a whole, or passes over it. -/
theorem pieces_placeholder (hm : m.Braced) {w : List Char} (hw : BraceFree w) (y : List Char) :
    m.pieces (placeholder w ++ y) =
      (if (m.at? (placeholder w)).isSome then [.token (placeholder w)]
        else (placeholder w).map .literal) ++ m.pieces y := by
  cases h : m.at? (placeholder w) with
  | some t =>
    obtain ⟨name, hname, rfl⟩ := hm.shape _ _ h
    have hpre := m.begins _ _ h
    obtain rfl : name = w := (placeholder_prefix_iff hname hw []).mp (by simpa using hpre)
    simpa using m.pieces_token (hm.kept _ _ h y)
  | none =>
    refine m.pieces_literals fun s hs hne => hm.at?_eq_none fun name hname hhit => ?_
    refine avoids_placeholder hname hw ?_ y s hs hne
    rintro rfl
    exact hhit h

/-- No match reaches over the beginning of a later placeholder. -/
theorem at?_append_open (hm : m.Braced) {s : List Char} (hs : s ≠ []) (y : List Char) :
    m.at? (s ++ '{' :: '{' :: y) = m.at? s := by
  have hsub : ∀ t z, m.at? z = some t → t <+: s → m.at? s = some t := by
    rintro t z ht ⟨r, rfl⟩
    exact hm.kept _ _ ht r
  cases h : m.at? (s ++ '{' :: '{' :: y) with
  | some t =>
    obtain ⟨name, hname, rfl⟩ := hm.shape _ _ h
    exact (hsub _ _ h (prefix_of_prefix_append_open (by simpa using hname.1) (by simp) hs
      (m.begins _ _ h))).symm
  | none =>
    cases hown : m.at? s with
    | none => rfl
    | some t =>
      obtain ⟨r, rfl⟩ := m.begins _ _ hown
      rw [List.append_assoc, hm.kept _ _ hown] at h
      cases h

/-- A scan begins anew at opening braces. -/
theorem pieces_append_open (hm : m.Braced) (x y : List Char) :
    m.pieces (x ++ '{' :: '{' :: y) = m.pieces x ++ m.pieces ('{' :: '{' :: y) :=
  m.pieces_append fun _ _ hne => hm.at?_append_open hne y

end Braced

end Matcher

end UptimeAlert.Template
