import UptimeAlert.Proofs.Template.Substitution

namespace UptimeAlert.Template

open UptimeAlert.Text

variable {tokens tokens' order : List (List Char)} {cs t rest : List Char} {c : Char}

/-- The longest token at a place is told by its properties: tokens of one length that fit there are
the same. -/
theorem longestAt?_eq_some_iff : longestAt? tokens cs = some t ↔
    t ∈ tokens ∧ t ≠ [] ∧ t <+: cs ∧ ∀ u ∈ tokens, u <+: cs → u.length ≤ t.length := by
  constructor
  · exact longestAt?_eq_some
  · intro h
    obtain ⟨hmem, hne, hpre, hmax⟩ := h
    cases hfound : longestAt? tokens cs with
    | none => exact absurd hpre (longestAt?_eq_none_iff.mp hfound t hmem hne)
    | some u =>
      obtain ⟨humem, -, hupre, humax⟩ := longestAt?_eq_some hfound
      have hlen : u.length = t.length := le_antisymm (hmax u humem hupre) (humax t hmem hpre)
      have hinit := List.prefix_of_prefix_length_le hupre hpre hlen.le
      rw [hinit.eq_of_length hlen]

theorem longestAt?_congr (h : ∀ t, t ∈ tokens ↔ t ∈ tokens') (cs : List Char) :
    longestAt? tokens cs = longestAt? tokens' cs := by
  apply Option.ext
  intro t
  simp only [longestAt?_eq_some_iff, h]

theorem emptyToken_congr (h : ∀ t, t ∈ tokens ↔ t ∈ tokens') :
    emptyToken tokens = emptyToken tokens' := by
  simp [emptyToken, h]

/-- A scan depends on which tokens there are, not on their order. -/
theorem scanFrom_congr (h : ∀ t, t ∈ tokens ↔ t ∈ tokens') (k : Nat) (cs : List Char) :
    scanFrom tokens k cs = scanFrom tokens' k cs := by
  induction cs generalizing k with
  | nil => simp [scanFrom, emptyToken_congr h]
  | cons c cs ih =>
    cases k with
    | zero => simp [scanFrom, longestAt?_congr h, emptyToken_congr h, ih]
    | succ k => simp [scanFrom, ih]

theorem scanFrom_eq_drop (tokens : List (List Char)) (k : Nat) (cs : List Char) :
    scanFrom tokens k cs = scan tokens (cs.drop k) := by
  induction k generalizing cs with
  | zero => rfl
  | succ k ih =>
    cases cs with
    | nil => simp [scanFrom, scan]
    | cons c cs => simp [scanFrom, ih cs]

theorem scan_token (h : longestAt? tokens (t ++ rest) = some t) :
    scan tokens (t ++ rest) = .token t :: scan tokens rest := by
  obtain ⟨c, t, rfl⟩ := List.exists_cons_of_ne_nil (longestAt?_eq_some h).2.1
  rw [List.cons_append] at h ⊢
  rw [scan, scanFrom, h]
  simp [scanFrom_eq_drop]

theorem scan_literal (h : longestAt? tokens (c :: rest) = none) :
    scan tokens (c :: rest) = emptyToken tokens ++ .literal c :: scan tokens rest := by
  simp [scan, scanFrom, h]

/-- The first of some alternatives that a text begins with. -/
def firstAt? (alternatives : List (List Char)) (cs : List Char) : Option (List Char) :=
  alternatives.find? (·.isPrefixOf cs)

/-- Puts values for the hits of an ordered choice from the left; the number counts the characters of
a hit that are still to be passed over. A hit may be empty, also right after another one; where it
is, a further one at the same place may not. -/
def putChoices (alternatives : List (List Char)) (value : List Char → List Char) :
    Nat → List Char → List Char
  | _, [] => ((firstAt? alternatives []).map value).getD []
  | k + 1, _ :: cs => putChoices alternatives value k cs
  | 0, c :: cs =>
    match firstAt? alternatives (c :: cs) with
    | none => c :: putChoices alternatives value 0 cs
    | some [] =>
      value [] ++
        match firstAt? (alternatives.filter (!·.isEmpty)) (c :: cs) with
        | none => c :: putChoices alternatives value 0 cs
        | some t => value t ++ putChoices alternatives value (t.length - 1) cs
    | some t => value t ++ putChoices alternatives value (t.length - 1) cs

/-- Whether no text of a list stands before a longer one. -/
def LongestFirst (order : List (List Char)) : Prop :=
  order.Pairwise fun t u => u.length ≤ t.length

/-- What fits at a place and does not stand before the first that fits is no longer than that. -/
theorem LongestFirst.length_le {front back : List (List Char)} {u : List Char}
    (h : LongestFirst (front ++ t :: back)) (hfront : ∀ u ∈ front, ¬ u <+: cs)
    (hu : u ∈ front ++ t :: back) (hpre : u <+: cs) : u.length ≤ t.length := by
  have hback := List.pairwise_cons.mp (List.pairwise_append.mp h).2.1
  rcases List.mem_append.mp hu with hin | hin
  · exact absurd hpre (hfront u hin)
  · rcases List.mem_cons.mp hin with rfl | hin
    · exact le_rfl
    · exact hback.1 u hin

/-- With longer tokens first the first one that fits is the longest, and the empty token is left for
where no other fits. -/
theorem firstAt?_of_longestFirst (h : LongestFirst order) (cs : List Char) :
    firstAt? order cs = (longestAt? order cs).or (if [] ∈ order then some [] else none) := by
  cases hfound : firstAt? order cs with
  | none =>
    have hnone : ∀ u ∈ order, ¬ u <+: cs := by simpa [firstAt?] using hfound
    have hlongest : longestAt? order cs = none :=
      longestAt?_eq_none_iff.mpr fun u hu _ => hnone u hu
    have hempty : [] ∉ order := fun hmem => hnone [] hmem List.nil_prefix
    rw [hlongest, if_neg hempty]
    rfl
  | some t =>
    obtain ⟨hpre, front, back, rfl, hskipped⟩ := List.find?_eq_some_iff_append.mp hfound
    rw [List.isPrefixOf_iff_prefix] at hpre
    have hmem : t ∈ front ++ t :: back := by simp
    have hfront : ∀ u ∈ front, ¬ u <+: cs := by
      intro u hu hupre
      have hno := hskipped u hu
      simp [List.isPrefixOf_iff_prefix.mpr hupre] at hno
    have hmax : ∀ u ∈ front ++ t :: back, u <+: cs → u.length ≤ t.length :=
      fun u hu hupre => h.length_le hfront hu hupre
    by_cases ht : t = []
    · subst ht
      have hnone : longestAt? (front ++ [] :: back) cs = none := by
        apply longestAt?_eq_none_iff.mpr
        intro u hu hne hupre
        have hlen := hmax u hu hupre
        exact hne (List.length_eq_zero_iff.mp (Nat.le_zero.mp hlen))
      rw [hnone, if_pos hmem]
      rfl
    · rw [longestAt?_eq_some_iff.mpr ⟨hmem, ht, hpre, hmax⟩]
      rfl

/-- An ordered choice with longer tokens first puts what a scan for the longest tokens puts. -/
theorem putChoices_of_longestFirst (h : LongestFirst order) (value : List Char → List Char)
    (k : Nat) (cs : List Char) :
    putChoices order value k cs = assemble value (scanFrom order k cs) := by
  induction cs generalizing k with
  | nil =>
    have hend : firstAt? order [] = if [] ∈ order then some [] else none := by
      have hnone : longestAt? order [] = none :=
        longestAt?_eq_none_iff.mpr fun u _ hne hpre => hne (List.prefix_nil.mp hpre)
      rw [firstAt?_of_longestFirst h, hnone]
      rfl
    by_cases hempty : [] ∈ order
    · simp [putChoices, scanFrom, emptyToken, hend, hempty]
    · simp [putChoices, scanFrom, emptyToken, hend, hempty]
  | cons c cs ih =>
    cases k with
    | succ k => simpa [putChoices, scanFrom] using ih k
    | zero =>
      have hfirst := firstAt?_of_longestFirst h (c :: cs)
      cases hlongest : longestAt? order (c :: cs) with
      | some t =>
        rw [hlongest] at hfirst
        obtain ⟨d, t, rfl⟩ := List.exists_cons_of_ne_nil (longestAt?_eq_some hlongest).2.1
        simp [putChoices, scanFrom, hfirst, hlongest, ih]
      | none =>
        -- no token fits but the empty one, so there is no further hit at the same place
        have hfurther : firstAt? (order.filter (!·.isEmpty)) (c :: cs) = none := by
          have hfree := longestAt?_eq_none_iff.mp hlongest
          simpa [firstAt?] using hfree
        rw [hlongest] at hfirst
        by_cases hempty : [] ∈ order
        · simp [putChoices, scanFrom, emptyToken, hfirst, hlongest, hempty, hfurther, ih]
        · simp [putChoices, scanFrom, emptyToken, hfirst, hlongest, hempty, ih]

namespace Dictionary

variable {d d' : Dictionary} {missing text out gap : List Char} {key : String} {v : Value}

/-- What is written where no token counts that is not empty: the value of the empty token, if there
is one. -/
inductive WritesGap (d : Dictionary) (missing : List Char) : List Char → Prop where
  | value {v : Value} (entry : ("", v) ∈ d) : WritesGap d missing (stringify missing v)
  | nothing (absent : ∀ v, ("", v) ∉ d) : WritesGap d missing []

/-- A text is written by one scan from the left. At each place the longest token that is not empty
counts and is passed over; where none fits, the gap is written and then the character. -/
inductive ScansTo (d : Dictionary) (missing : List Char) : List Char → List Char → Prop where
  | finish {gap : List Char} (atEnd : WritesGap d missing gap) : ScansTo d missing [] gap
  | token {key : String} {v : Value} {rest out : List Char} (entry : (key, v) ∈ d)
    (nonempty : key ≠ "")
    (longest : ∀ other ∈ d, other.1.toList <+: key.toList ++ rest →
      other.1.toList.length ≤ key.toList.length)
    (tail : ScansTo d missing rest out) :
    ScansTo d missing (key.toList ++ rest) (stringify missing v ++ out)
  | literal {c : Char} {rest gap out : List Char}
    (free : ∀ other ∈ d, other.1 ≠ "" → ¬ other.1.toList <+: c :: rest)
    (before : WritesGap d missing gap) (tail : ScansTo d missing rest out) :
    ScansTo d missing (c :: rest) (gap ++ c :: out)

theorem nil_mem_tokens_iff : [] ∈ d.tokens ↔ ∃ v, ("", v) ∈ d := by
  rw [mem_tokens_iff]
  constructor
  · intro h
    obtain ⟨key, v, entry, hkey⟩ := h
    obtain rfl : key = "" := String.toList_eq_nil_iff.mp hkey.symm
    exact ⟨v, entry⟩
  · intro h
    obtain ⟨v, entry⟩ := h
    exact ⟨"", v, entry, rfl⟩

theorem get_of_mem (hkeys : (d.map Prod.fst).Nodup) (h : (key, v) ∈ d) : Fields.get d key = v := by
  obtain ⟨front, back, rfl⟩ := List.append_of_mem h
  have hfirst : ∀ entry ∈ front, (key != entry.1) = true := by
    intro entry hentry
    rw [List.map_append, List.map_cons, List.nodup_append] at hkeys
    have hne := hkeys.2.2 entry.1 (List.mem_map_of_mem hentry) key List.mem_cons_self
    simpa using hne.symm
  have hlookup : (front ++ (key, v) :: back).lookup key = some v :=
    List.lookup_eq_some_iff.mpr ⟨front, back, rfl, hfirst⟩
  rw [Fields.get, Fields.get?, hlookup]
  rfl

theorem valueText_of_mem (hkeys : (d.map Prod.fst).Nodup) (h : (key, v) ∈ d)
    (missing : List Char) : d.valueText missing key.toList = stringify missing v := by
  rw [valueText, String.ofList_toList, get_of_mem hkeys h]

/-- What an empty name writes between characters is its value, and nothing if there is no such name.
-/
theorem writesGap_iff (hkeys : (d.map Prod.fst).Nodup) :
    d.WritesGap missing gap ↔ gap = assemble (d.valueText missing) (emptyToken d.tokens) := by
  by_cases hempty : ∃ v, ("", v) ∈ d
  · obtain ⟨v, entry⟩ := hempty
    have hmem : [] ∈ d.tokens := nil_mem_tokens_iff.mpr ⟨v, entry⟩
    have hvalue : d.valueText missing [] = stringify missing v :=
      valueText_of_mem hkeys entry missing
    have hgap : assemble (d.valueText missing) (emptyToken d.tokens) = stringify missing v := by
      simp [emptyToken, hmem, hvalue]
    rw [hgap]
    constructor
    · intro h
      cases h with
      | value entry' => rw [← hvalue, ← valueText_of_mem hkeys entry' missing]; rfl
      | nothing absent => exact absurd entry (absent v)
    · intro hgap
      rw [hgap]
      exact .value entry
  · have hgap : assemble (d.valueText missing) (emptyToken d.tokens) = [] := by
      simp [emptyToken, nil_mem_tokens_iff, hempty]
    rw [hgap]
    constructor
    · intro h
      cases h with
      | value entry => exact absurd ⟨_, entry⟩ hempty
      | nothing => rfl
    · intro hgap
      rw [hgap]
      exact .nothing (not_exists.mp hempty)

theorem substitute_token {t rest : List Char} (h : longestAt? d.tokens (t ++ rest) = some t)
    (missing : List Char) : d.substitute missing (t ++ rest) =
      d.valueText missing t ++ d.substitute missing rest := by
  rw [substitute, scan_token h, assemble_token, substitute]

theorem substitute_literal {c : Char} {rest : List Char}
    (h : longestAt? d.tokens (c :: rest) = none) (missing : List Char) :
    d.substitute missing (c :: rest) =
      assemble (d.valueText missing) (emptyToken d.tokens) ++ c :: d.substitute missing rest := by
  rw [substitute, scan_literal h, assemble_append, assemble_literal, substitute]

/-- A substitution is such a scan. -/
theorem scansTo_substitute (hkeys : (d.map Prod.fst).Nodup) (missing text : List Char) :
    d.ScansTo missing text (d.substitute missing text) := by
  induction hn : text.length using Nat.strong_induction_on generalizing text with
  | _ n ih =>
    subst hn
    cases text with
    | nil => exact .finish ((writesGap_iff hkeys).mpr rfl)
    | cons c cs =>
      cases hlongest : longestAt? d.tokens (c :: cs) with
      | some t =>
        obtain ⟨hmem, hne, ⟨rest, hrest⟩, hmax⟩ := longestAt?_eq_some hlongest
        obtain ⟨key, v, entry, rfl⟩ := mem_tokens_iff.mp hmem
        have hlt : rest.length < (c :: cs).length := by
          have hpos := List.length_pos_iff.mpr hne
          rw [← hrest, List.length_append]
          omega
        rw [← hrest] at hlongest hmax ⊢
        rw [substitute_token hlongest, valueText_of_mem hkeys entry]
        refine .token entry ?_ ?_ (ih _ hlt rest rfl)
        · intro hkey
          exact hne (by rw [hkey]; rfl)
        · intro other hother
          exact hmax _ (mem_tokens_iff.mpr ⟨other.1, other.2, hother, rfl⟩)
      | none =>
        have hfree := longestAt?_eq_none_iff.mp hlongest
        rw [substitute_literal hlongest]
        refine .literal ?_ ((writesGap_iff hkeys).mpr rfl) (ih _ (by simp) cs rfl)
        intro other hother hne
        refine hfree _ (mem_tokens_iff.mpr ⟨other.1, other.2, hother, rfl⟩) ?_
        simpa using hne

/-- There is one such scan of a text only. -/
theorem eq_substitute_of_scansTo (hkeys : (d.map Prod.fst).Nodup)
    (h : d.ScansTo missing text out) : out = d.substitute missing text := by
  induction h with
  | finish atEnd => exact (writesGap_iff hkeys).mp atEnd
  | @token key v rest out entry nonempty longest _ ih =>
    have hlongest : longestAt? d.tokens (key.toList ++ rest) = some key.toList := by
      apply longestAt?_eq_some_iff.mpr
      refine ⟨mem_tokens_iff.mpr ⟨key, v, entry, rfl⟩, by simpa using nonempty,
        List.prefix_append _ _, ?_⟩
      intro u hu hpre
      obtain ⟨other, w, hother, rfl⟩ := mem_tokens_iff.mp hu
      exact longest _ hother hpre
    rw [substitute_token hlongest, valueText_of_mem hkeys entry, ih]
  | @literal c rest gap out free before _ ih =>
    have hnone : longestAt? d.tokens (c :: rest) = none := by
      apply longestAt?_eq_none_iff.mpr
      intro u hu hne
      obtain ⟨other, w, hother, rfl⟩ := mem_tokens_iff.mp hu
      exact free _ hother (by simpa using hne)
    rw [substitute_literal hnone, (writesGap_iff hkeys).mp before, ih]

theorem WritesGap.of_perm (h : d.WritesGap missing gap) (hperm : d.Perm d') :
    d'.WritesGap missing gap := by
  cases h with
  | value entry => exact .value (hperm.subset entry)
  | nothing absent => exact .nothing fun v entry => absent v (hperm.symm.subset entry)

/-- A scan reads the entries in no order. -/
theorem ScansTo.of_perm (h : d.ScansTo missing text out) (hperm : d.Perm d') :
    d'.ScansTo missing text out := by
  induction h with
  | finish atEnd => exact .finish (atEnd.of_perm hperm)
  | token entry nonempty longest _ ih =>
    exact .token (hperm.subset entry) nonempty
      (fun other hother => longest other (hperm.symm.subset hother)) ih
  | literal free before _ ih =>
    exact .literal (fun other hother => free other (hperm.symm.subset hother))
      (before.of_perm hperm) ih

/-- The order of the entries does not matter: a substitution is the scan from the left that takes
the longest token at each place, and an ordered choice with longer tokens first puts the same. -/
theorem substitute_of_perm (d d' : Dictionary) (missing text : List Char)
    (hkeys : (d.map Prod.fst).Nodup) (hperm : d'.Perm d) :
    d'.substitute missing text = d.substitute missing text ∧
      (∀ out, d.ScansTo missing text out ↔ out = d.substitute missing text) ∧
      ∀ order, order.Perm d'.tokens → LongestFirst order →
        putChoices order (d'.valueText missing) 0 text = d.substitute missing text := by
  have hkeys' : (d'.map Prod.fst).Nodup := (hperm.map Prod.fst).nodup_iff.mpr hkeys
  have hsame : d'.substitute missing text = d.substitute missing text :=
    eq_substitute_of_scansTo hkeys ((scansTo_substitute hkeys' missing text).of_perm hperm)
  refine ⟨hsame, ?_, ?_⟩
  · intro out
    constructor
    · exact eq_substitute_of_scansTo hkeys
    · intro hout
      rw [hout]
      exact scansTo_substitute hkeys missing text
  · intro order horder hsorted
    have hmem : ∀ t, t ∈ order ↔ t ∈ d'.tokens := fun t => horder.mem_iff
    rw [putChoices_of_longestFirst hsorted, scanFrom_congr hmem, ← hsame]
    rfl

/-- Tokens that begin and end with one another, two of one length, and the empty one, read
backwards. -/
theorem substitute_of_perm_backwards :
    let d : Dictionary :=
      [("", .text "-"), ("ab", .int 1), ("a", .null), ("abc", .bool true), ("ca", .text "ab")]
    let backwards : Dictionary := d.reverse
    let missing := "?".toList
    let text := "zabcaab".toList
    (d.map Prod.fst).Nodup ∧ backwards.Perm d ∧
      d.substitute missing text = "-ztrue?1-".toList ∧
      backwards.substitute missing text = d.substitute missing text ∧
      (∀ out, d.ScansTo missing text out ↔ out = d.substitute missing text) ∧
      ∀ order, order.Perm backwards.tokens → LongestFirst order →
        putChoices order (backwards.valueText missing) 0 text = d.substitute missing text := by
  intro d backwards missing text
  have hkeys : (d.map Prod.fst).Nodup := by decide
  have hperm : backwards.Perm d := List.reverse_perm d
  have hwritten : d.substitute missing text = "-ztrue?1-".toList := by decide +kernel
  exact ⟨hkeys, hperm, hwritten, substitute_of_perm d backwards missing text hkeys hperm⟩

end Dictionary

end UptimeAlert.Template
