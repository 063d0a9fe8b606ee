import UptimeAlert.Proofs.Template.Substitution

namespace UptimeAlert.Template

open UptimeAlert.Text

variable {v : List Char → List Char} {ps : List Piece} {before p after : List Char}

/-- Whether a written text has the seam of a value after so many characters: a value begins or ends
there. -/
def IsSeam (v : List Char → List Char) (ps : List Piece) (left : List Char) : Prop :=
  ∃ front u back, ps = front ++ .token u :: back ∧
    (left = assemble v front ∨ left = assemble v front ++ v u)

theorem IsSeam.literal {left : List Char} (h : IsSeam v ps left) (c : Char) :
    IsSeam v (.literal c :: ps) (c :: left) := by
  obtain ⟨front, u, back, rfl, hleft⟩ := h
  refine ⟨.literal c :: front, u, back, rfl, ?_⟩
  rcases hleft with rfl | rfl
  · exact .inl rfl
  · exact .inr rfl

theorem IsSeam.token {left : List Char} (h : IsSeam v ps left) (t : List Char) :
    IsSeam v (.token t :: ps) (v t ++ left) := by
  obtain ⟨front, u, back, rfl, hleft⟩ := h
  refine ⟨.token t :: front, u, back, rfl, ?_⟩
  rcases hleft with rfl | rfl
  · exact .inl rfl
  · exact .inr (by simp)

/-- A text that stands after `before` in a written text runs over a seam. -/
def CrossesSeam (v : List Char → List Char) (ps : List Piece) (before p : List Char) : Prop :=
  ∃ x y, p = x ++ y ∧ x ≠ [] ∧ y ≠ [] ∧ IsSeam v ps (before ++ x)

theorem CrossesSeam.literal (h : CrossesSeam v ps before p) (c : Char) :
    CrossesSeam v (.literal c :: ps) (c :: before) p := by
  obtain ⟨x, y, hsplit, hx, hy, hseam⟩ := h
  exact ⟨x, y, hsplit, hx, hy, hseam.literal c⟩

theorem CrossesSeam.token (h : CrossesSeam v ps before p) (t : List Char) :
    CrossesSeam v (.token t :: ps) (v t ++ before) p := by
  obtain ⟨x, y, hsplit, hx, hy, hseam⟩ := h
  refine ⟨x, y, hsplit, hx, hy, ?_⟩
  rw [List.append_assoc]
  exact hseam.token t

/-- Where a text that stands after `before` in a written text comes from: it runs over a seam, or it
lies in a value, or it was there before. -/
inductive Origin (v : List Char → List Char) (ps : List Piece) (before p : List Char) : Prop where
  | seam (crosses : CrossesSeam v ps before p)
  | value (t : List Char) (found : .token t ∈ ps) (inside : p <:+: v t)
  | literals (front back : List Piece) (split : ps = front ++ p.map .literal ++ back)

theorem Origin.literal (h : Origin v ps before p) (c : Char) :
    Origin v (.literal c :: ps) (c :: before) p := by
  cases h with
  | seam crosses => exact .seam (crosses.literal c)
  | value t found inside => exact .value t (List.mem_cons_of_mem _ found) inside
  | literals front back split => exact .literals (.literal c :: front) back (by rw [split]; rfl)

theorem Origin.token (h : Origin v ps before p) (t : List Char) :
    Origin v (.token t :: ps) (v t ++ before) p := by
  cases h with
  | seam crosses => exact .seam (crosses.token t)
  | value u found inside => exact .value u (List.mem_cons_of_mem _ found) inside
  | literals front back split => exact .literals (.token t :: front) back (by rw [split]; rfl)

/-- What stands at a literal goes on over literals up to its end, or up to a seam. -/
theorem crossesSeam_or_literals {c : Char} (hpre : c :: p <+: assemble v (.literal c :: ps)) :
    CrossesSeam v (.literal c :: ps) [] (c :: p) ∨
      ∃ back, .literal c :: ps = (c :: p).map .literal ++ back := by
  induction p generalizing c ps with
  | nil => exact .inr ⟨ps, rfl⟩
  | cons d p ih =>
    have htail : d :: p <+: assemble v ps := (List.cons_prefix_cons.mp hpre).2
    cases ps with
    | nil => simp at htail
    | cons piece ps =>
      cases piece with
      | literal e =>
        obtain rfl : d = e := (List.cons_prefix_cons.mp htail).1
        rcases ih htail with h | h
        · obtain ⟨x, y, hsplit, hx, hy, hseam⟩ := h
          exact .inl ⟨c :: x, y, by rw [hsplit]; rfl, by simp, hy, hseam.literal c⟩
        · obtain ⟨back, hback⟩ := h
          exact .inr ⟨back, by rw [hback]; rfl⟩
      | token t =>
        exact .inl ⟨[c], d :: p, rfl, by simp, by simp, [.literal c], t, ps, rfl, .inl rfl⟩

/-- What stands at the end of a value ends there too, or runs over the seam. -/
theorem origin_at_value {t mid : List Char} (hvalue : v t = before ++ mid) (hmid : mid ≠ [])
    (heq : p ++ after = mid ++ assemble v ps) : Origin v (.token t :: ps) before p := by
  have hpre : p <+: mid ++ assemble v ps := ⟨after, heq⟩
  have hfull : mid <+: mid ++ assemble v ps := List.prefix_append _ _
  have hin : p <+: mid → Origin v (.token t :: ps) before p := by
    intro hwithin
    have hsuffix : mid <:+ v t := hvalue ▸ List.suffix_append _ _
    exact .value t List.mem_cons_self (hwithin.isInfix.trans hsuffix.isInfix)
  rcases List.prefix_or_prefix_of_prefix hpre hfull with hwithin | ⟨y, rfl⟩
  · exact hin hwithin
  · by_cases hy : y = []
    · exact hin (by rw [hy, List.append_nil])
    · exact .seam ⟨mid, y, rfl, hmid, hy, [], t, ps, rfl, .inr hvalue.symm⟩

/-- All that stands in a written text has an origin. -/
theorem origin_of_occurs (hp : p ≠ []) (heq : assemble v ps = before ++ p ++ after) :
    Origin v ps before p := by
  induction ps generalizing before with
  | nil =>
    have hempty : before ++ p ++ after = [] := heq.symm
    simp [hp] at hempty
  | cons piece ps ih =>
    cases piece with
    | literal c =>
      cases before with
      | nil =>
        obtain ⟨d, p, rfl⟩ := List.exists_cons_of_ne_nil hp
        obtain rfl : c = d := (List.cons.inj heq).1
        rcases crossesSeam_or_literals ⟨after, heq.symm⟩ with h | h
        · exact .seam h
        · obtain ⟨back, hback⟩ := h
          exact .literals [] back (by simpa using hback)
      | cons d before =>
        obtain ⟨rfl, htail⟩ := List.cons.inj heq
        exact (ih htail).literal c
    | token t =>
      rw [assemble_token, List.append_assoc] at heq
      rcases List.append_eq_append_iff.mp heq with ⟨mid, rfl, htail⟩ | ⟨mid, hvalue, htail⟩
      · rw [← List.append_assoc] at htail
        exact (ih htail).token t
      · by_cases hmid : mid = []
        · subst hmid
          obtain rfl : before = v t := by simpa using hvalue.symm
          have hrest : assemble v ps = [] ++ p ++ after := htail.symm
          simpa using (ih hrest).token t
        · exact origin_at_value hvalue hmid htail

/-- No token stands where a scan found none. -/
theorem not_isScan_literals {tokens : List (List Char)} {t : List Char} {front back : List Piece}
    (ht : t ∈ tokens) (hne : t ≠ []) :
    ¬ (Matcher.ofTokens tokens).IsScan (front ++ t.map .literal ++ back) := by
  intro hscan
  rw [List.append_assoc] at hscan
  obtain ⟨c, t, rfl⟩ := List.exists_cons_of_ne_nil hne
  have hnone := (Matcher.isScan_of_append _ hscan).1
  have hsource : source (t.map .literal ++ back) = t ++ source back := by
    rw [source_append, source_literals]
  refine longestAt?_eq_none_iff.mp hnone _ ht hne ⟨source back, ?_⟩
  rw [List.cons_append]
  exact congrArg (List.cons c) hsource.symm

/-- What is written for pieces is their text, or comes behind it, only if there is no token among
them: once a token is longer than what is written for it, no later value makes up for that without
holding its own token. -/
theorem not_token_of_assemble_eq {w : List Char} (hfree : ∀ t, .token t ∈ ps → ¬ t <:+: v t)
    (heq : assemble v ps = w ++ source ps) : w = [] ∧ ∀ t, .token t ∉ ps := by
  induction ps generalizing w with
  | nil =>
    have hw : [] = w := by simpa [source] using heq
    exact ⟨hw.symm, fun _ => List.not_mem_nil⟩
  | cons piece ps ih =>
    have hrest {w : List Char} (h : assemble v ps = w ++ source ps) :
        w = [] ∧ ∀ t, .token t ∉ ps :=
      ih (fun t ht => hfree t (List.mem_cons_of_mem _ ht)) h
    cases piece with
    | literal c =>
      cases w with
      | nil =>
        have htail : assemble v ps = [] ++ source ps := (List.cons.inj heq).2
        exact ⟨rfl, by simpa using (hrest htail).2⟩
      | cons d w =>
        obtain ⟨rfl, -⟩ := List.cons.inj heq
        have htail : assemble v ps = w ++ c :: source ps := (List.cons.inj heq).2
        have hbehind : assemble v ps = (w ++ [c]) ++ source ps := by simpa using htail
        exact absurd (hrest hbehind).1 (by simp)
    | token t =>
      exfalso
      have hvalue := hfree t List.mem_cons_self
      rw [assemble_token, source_token, ← List.append_assoc] at heq
      rcases List.append_eq_append_iff.mp heq with ⟨w', hw', htail⟩ | ⟨w', hw', -⟩
      · obtain rfl : w' = [] := (hrest htail).1
        exact hvalue ⟨w, [], by rw [hw', List.append_nil, List.append_nil]⟩
      · exact hvalue ⟨w, w', hw'.symm⟩

theorem eq_literals_of_not_token (h : ∀ t, .token t ∉ ps) : ps = (source ps).map .literal := by
  induction ps with
  | nil => rfl
  | cons piece ps ih =>
    cases piece with
    | literal c =>
      have hrest := ih fun t ht => h t (List.mem_cons_of_mem _ ht)
      exact congrArg (List.cons (Piece.literal c)) hrest
    | token t => exact absurd List.mem_cons_self (h t)

/-- Whether two texts overlap: one lies in the other, or something ends the one and begins the
other. -/
def Overlap (x y : List Char) : Prop :=
  x <:+: y ∨ y <:+: x ∨ ∃ part, part ≠ [] ∧ (part <+: x ∧ part <:+ y ∨ part <:+ x ∧ part <+: y)

instance (x y : List Char) : Decidable (Overlap x y) :=
  decidable_of_iff (x <:+: y ∨ y <:+: x ∨ ∃ part ∈ y.tails ++ y.inits,
      part ≠ [] ∧ (part <+: x ∧ part <:+ y ∨ part <:+ x ∧ part <+: y)) <| by
    refine or_congr_right (or_congr_right (exists_congr fun part => ?_))
    simp only [List.mem_append, List.mem_tails, List.mem_inits]
    tauto

/-- A text that runs over a seam overlaps the value there. -/
theorem overlap_of_crossesSeam (h : CrossesSeam v ps before p)
    (heq : assemble v ps = before ++ p ++ after) : ∃ u, .token u ∈ ps ∧ Overlap (v u) p := by
  obtain ⟨x, y, rfl, hx, hy, front, u, back, rfl, hseam⟩ := h
  refine ⟨u, by simp, ?_⟩
  rcases hseam with hbegin | hend
  · have hrest : v u ++ assemble v back = y ++ after := by
      have hfull : assemble v front ++ (v u ++ assemble v back) =
          assemble v front ++ (y ++ after) := by
        rw [← hbegin]
        simpa [← hbegin] using heq
      exact List.append_cancel_left hfull
    have hvalue : v u <+: v u ++ assemble v back := List.prefix_append _ _
    have hpart : y <+: v u ++ assemble v back := ⟨after, hrest.symm⟩
    rcases List.prefix_or_prefix_of_prefix hvalue hpart with hin | hin
    · exact .inl (hin.isInfix.trans (List.suffix_append x y).isInfix)
    · exact .inr (.inr ⟨y, hy, .inl ⟨hin, List.suffix_append x y⟩⟩)
  · have hvalue : v u <:+ before ++ x := hend ▸ List.suffix_append _ _
    have hpart : x <:+ before ++ x := List.suffix_append _ _
    rcases List.suffix_or_suffix_of_suffix hvalue hpart with hin | hin
    · exact .inl (hin.isInfix.trans (List.prefix_append x y).isInfix)
    · exact .inr (.inr ⟨x, hx, .inr ⟨hin, List.prefix_append x y⟩⟩)

namespace Dictionary

variable {d : Dictionary} {missing text t : List Char}

/-- Whether no value of a dictionary contains a token. -/
def ValuesFree (d : Dictionary) (missing : List Char) : Prop :=
  ∀ entry ∈ d, ∀ t ∈ d.tokens, ¬ t <:+: stringify missing entry.2

theorem exists_entry (h : t ∈ d.tokens) (missing : List Char) :
    ∃ entry ∈ d, d.valueText missing t = stringify missing entry.2 := by
  obtain ⟨key, v, hmem, rfl⟩ := mem_tokens_iff.mp h
  cases hlookup : d.lookup key with
  | none =>
    have hother := List.lookup_eq_none_iff.mp hlookup (key, v) hmem
    simp at hother
  | some w =>
    obtain ⟨front, back, rfl, -⟩ := List.lookup_eq_some_iff.mp hlookup
    refine ⟨(key, w), by simp, ?_⟩
    rw [valueText, String.ofList_toList, Fields.get, Fields.get?, hlookup]
    rfl

theorem ValuesFree.nil_not_mem (h : d.ValuesFree missing) : [] ∉ d.tokens := by
  intro hmem
  obtain ⟨entry, hentry, -⟩ := exists_entry hmem missing
  exact h entry hentry [] hmem List.nil_infix

theorem ValuesFree.not_infix_valueText {u : List Char} (h : d.ValuesFree missing)
    (ht : t ∈ d.tokens) (hu : u ∈ d.tokens) : ¬ t <:+: d.valueText missing u := by
  obtain ⟨entry, hentry, hvalue⟩ := exists_entry hu missing
  rw [hvalue]
  exact h entry hentry t ht

/-- A substitution changes a text exactly where a token occurs in it. -/
theorem substitute_eq_self_iff (h : d.ValuesFree missing) (text : List Char) :
    d.substitute missing text = text ↔ ∀ t ∈ d.tokens, ¬ t <:+: text := by
  rw [substitute_eq_pieces h.nil_not_mem]
  have hscan := (Matcher.ofTokens d.tokens).isScan_pieces text
  have hsource := (Matcher.ofTokens d.tokens).source_pieces text
  constructor
  · intro heq t ht hin
    have hfree : ∀ u, .token u ∈ (Matcher.ofTokens d.tokens).pieces text →
        ¬ u <:+: d.valueText missing u := by
      intro u hu
      have hmem := mem_tokens_of_isScan hscan hu
      exact h.not_infix_valueText hmem hmem
    have hnone := (not_token_of_assemble_eq (w := []) hfree (by rw [heq, hsource]; rfl)).2
    have hliterals := eq_literals_of_not_token hnone
    obtain ⟨before, after, rfl⟩ := hin
    rw [hsource, List.map_append, List.map_append] at hliterals
    rw [hliterals] at hscan
    have hne : t ≠ [] := fun hnil => h.nil_not_mem (hnil ▸ ht)
    exact not_isScan_literals ht hne hscan
  · intro hnone
    rw [pieces_of_tokenFree hnone, assemble_literals]

/-- A token that stands in the written text runs over a seam. -/
theorem crossesSeam_of_occurs {before after : List Char} (h : d.ValuesFree missing)
    (ht : t ∈ d.tokens) (heq : d.substitute missing text = before ++ t ++ after) :
    CrossesSeam (d.valueText missing) (scan d.tokens text) before t := by
  have hscan := (Matcher.ofTokens d.tokens).isScan_pieces text
  have hne : t ≠ [] := fun hnil => h.nil_not_mem (hnil ▸ ht)
  rw [substitute_eq_pieces h.nil_not_mem] at heq
  rw [scan_eq_pieces h.nil_not_mem]
  cases origin_of_occurs hne heq with
  | seam crosses => exact crosses
  | value u found inside =>
    exact absurd inside (h.not_infix_valueText ht (mem_tokens_of_isScan hscan found))
  | literals front back split =>
    rw [split] at hscan
    exact absurd hscan (not_isScan_literals ht hne)

/-- Where no value overlaps with a token, none is left behind. -/
theorem not_infix_of_not_overlap (h : d.ValuesFree missing)
    (hapart : ∀ entry ∈ d, ∀ t ∈ d.tokens, ¬ Overlap (stringify missing entry.2) t)
    (ht : t ∈ d.tokens) : ¬ t <:+: d.substitute missing text := by
  intro hin
  obtain ⟨before, after, heq⟩ := hin
  have hcross := crossesSeam_of_occurs h ht heq.symm
  have hwritten : assemble (d.valueText missing) (scan d.tokens text) = before ++ t ++ after :=
    heq.symm
  obtain ⟨u, hu, hoverlap⟩ := overlap_of_crossesSeam hcross hwritten
  rw [scan_eq_pieces h.nil_not_mem] at hu
  have hscan := (Matcher.ofTokens d.tokens).isScan_pieces text
  obtain ⟨entry, hentry, hvalue⟩ := exists_entry (mem_tokens_of_isScan hscan hu) missing
  rw [hvalue] at hoverlap
  exact hapart entry hentry t ht hoverlap

/-- Where no value contains a token, a second substitution changes nothing exactly when no token
stands in the text written by the first one. Such a token runs over a seam, so there is none if no
value overlaps a token. -/
theorem substitute_substitute_iff (d : Dictionary) (missing text : List Char)
    (h : ∀ entry ∈ d, ∀ t ∈ d.tokens, ¬ t <:+: stringify missing entry.2) :
    (d.substitute missing (d.substitute missing text) = d.substitute missing text ↔
      ∀ t ∈ d.tokens, ¬ t <:+: d.substitute missing text) ∧
    (∀ t ∈ d.tokens, ∀ before after, d.substitute missing text = before ++ t ++ after →
      CrossesSeam (d.valueText missing) (scan d.tokens text) before t) ∧
    ((∀ entry ∈ d, ∀ t ∈ d.tokens, ¬ Overlap (stringify missing entry.2) t) →
      d.substitute missing (d.substitute missing text) = d.substitute missing text) := by
  have hfree : d.ValuesFree missing := h
  have hiff := substitute_eq_self_iff hfree (d.substitute missing text)
  refine ⟨hiff, ?_, ?_⟩
  · intro t ht before after heq
    exact crossesSeam_of_occurs hfree ht heq
  · intro hapart
    exact hiff.mpr fun t ht => not_infix_of_not_overlap hfree hapart ht

/-- Values that overlap no token, one of them between the halves of a token. -/
theorem substitute_substitute_iff_apart :
    let d : Dictionary :=
      [(token "NAME", .text "API"), (token "STATUS", .text "🔴 Down"), (token "DOWN_COUNT", .null)]
    let missing := "null".toList
    let text := ("\x7b\x7bNAME\x7d\x7d is \x7b\x7bSTATUS\x7d\x7d " ++
      "\x7b\x7bNA\x7b\x7bDOWN_COUNT\x7d\x7dME\x7d\x7d").toList
    (∀ entry ∈ d, ∀ t ∈ d.tokens, ¬ t <:+: stringify missing entry.2) ∧
      (∀ entry ∈ d, ∀ t ∈ d.tokens, ¬ Overlap (stringify missing entry.2) t) ∧
      d.substitute missing text = "API is 🔴 Down \x7b\x7bNAnullME\x7d\x7d".toList ∧
      (d.substitute missing (d.substitute missing text) = d.substitute missing text ↔
        ∀ t ∈ d.tokens, ¬ t <:+: d.substitute missing text) ∧
      (∀ t ∈ d.tokens, ∀ before after, d.substitute missing text = before ++ t ++ after →
        CrossesSeam (d.valueText missing) (scan d.tokens text) before t) ∧
      ((∀ entry ∈ d, ∀ t ∈ d.tokens, ¬ Overlap (stringify missing entry.2) t) →
        d.substitute missing (d.substitute missing text) = d.substitute missing text) := by
  intro d missing text
  have hfree : ∀ entry ∈ d, ∀ t ∈ d.tokens, ¬ t <:+: stringify missing entry.2 := by
    decide +kernel
  have hapart : ∀ entry ∈ d, ∀ t ∈ d.tokens, ¬ Overlap (stringify missing entry.2) t := by
    decide +kernel
  have hwritten : d.substitute missing text = "API is 🔴 Down \x7b\x7bNAnullME\x7d\x7d".toList := by
    decide +kernel
  exact ⟨hfree, hapart, hwritten, substitute_substitute_iff d missing text hfree⟩

/-- A value that is empty brings the halves of its own token together. -/
theorem substitute_substitute_ne :
    let d : Dictionary := [(token "PORT", .text "")]
    let text := "\x7b\x7bPO\x7b\x7bPORT\x7d\x7dRT\x7d\x7d".toList
    (d.map Prod.fst).Nodup ∧
      (∀ entry ∈ d, ∀ t ∈ d.tokens, ¬ t <:+: stringify [] entry.2 ∧ ¬ t <:+: []) ∧
      d.substitute [] text = (token "PORT").toList ∧
      d.substitute [] (d.substitute [] text) = [] := by
  decide +kernel

end Dictionary

end UptimeAlert.Template
