import UptimeAlert.Json.Reader
import UptimeAlert.Json.Writer
import UptimeAlert.Proofs.Text.Digits

namespace UptimeAlert.Json

open UptimeAlert.Text

theorem hexValue?_digitChar {n : Nat} (h : n < 16) : hexValue? n.digitChar = some n := by
  interval_cases n <;> rfl

theorem hex_four {u : Nat} (h : u < 0x10000) :
    hex 4 u = [(u / 4096).digitChar, (u / 256 % 16).digitChar, (u / 16 % 16).digitChar,
      (u % 16).digitChar] := by
  have hone : hex 1 (u / 4096) = [(u / 4096).digitChar] := by
    have hlt : u / 4096 < 16 := by omega
    simp [hex, fillZeros, Nat.toDigits_of_lt_base hlt]
  rw [hex_succ (by decide), hex_succ (by decide), hex_succ (by decide), Nat.div_div_eq_div_mul,
    Nat.div_div_eq_div_mul, Nat.div_div_eq_div_mul, hone]
  rfl

theorem length_hex_four {u : Nat} (h : u < 0x10000) : (hex 4 u).length = 4 := by
  rw [hex_four h]
  rfl

theorem lt_length_hex_append {u : Nat} (h : u < 0x10000) {cs : List Char} (hcs : cs ≠ []) :
    4 < (hex 4 u ++ cs).length := by
  rw [List.length_append, length_hex_four h]
  exact Nat.lt_add_of_pos_right (List.length_pos_iff.mpr hcs)

theorem hexUnit?_hex {u : Nat} (h : u < 0x10000) (cs : List Char) :
    hexUnit? (hex 4 u ++ cs) = some u := by
  have hdigit (n : Nat) : hexValue? (n % 16).digitChar = some (n % 16) :=
    hexValue?_digitChar (Nat.mod_lt n (by decide))
  simp only [hex_four h, hexUnit?, List.cons_append, List.nil_append, hdigit,
    hexValue?_digitChar (show u / 4096 < 16 by omega), Option.bind_eq_bind, Option.bind_some,
    Option.some.injEq]
  omega

variable {opening : Nat}

theorem escape_unit {u : Nat} (h : u < 0x10000) {cs : List Char} (hcs : cs ≠ []) :
    escape opening ('u' :: (hex 4 u ++ cs)) = unicodeEscape u cs := by
  have hdrop : (hex 4 u ++ cs).drop 4 = cs := List.drop_left' (length_hex_four h)
  simp only [escape, if_pos (lt_length_hex_append h hcs), hexUnit?_hex h, hdrop]

theorem toNat_range (c : Char) : c.toNat < 0xD800 ∨ 0xDFFF < c.toNat ∧ c.toNat < 0x110000 := by
  have hvalid := c.valid
  simp only [UInt32.isValidChar, Nat.isValidChar] at hvalid
  exact hvalid

/-- No character is a surrogate. -/
theorem not_isSurrogate (c : Char) :
    (isHighSurrogate c.toNat || isLowSurrogate c.toNat) = false := by
  have hrange := toNat_range c
  simp only [isHighSurrogate, isLowSurrogate, Bool.or_eq_false_iff, Bool.and_eq_false_iff,
    decide_eq_false_iff_not]
  omega

theorem unicodeEscape_char (c : Char) (cs : List Char) :
    unicodeEscape c.toNat cs = .ok (c, 5) := by
  have hlone : loneUnit c.toNat = c := by
    rw [loneUnit, not_isSurrogate, if_neg Bool.false_ne_true, Char.ofNat_toNat]
  have hhigh : isHighSurrogate c.toNat = false := (Bool.or_eq_false_iff.mp (not_isSurrogate c)).1
  unfold unicodeEscape
  split <;> simp [hlone, hhigh]

def highUnit (c : Char) : Nat := 0xD800 + (c.toNat - 0x10000) / 1024

def lowUnit (c : Char) : Nat := 0xDC00 + (c.toNat - 0x10000) % 1024

theorem isHighSurrogate_highUnit (c : Char) : isHighSurrogate (highUnit c) = true := by
  have hrange := toNat_range c
  rw [isHighSurrogate, Bool.and_eq_true, decide_eq_true_eq, decide_eq_true_eq]
  unfold highUnit
  omega

theorem isLowSurrogate_lowUnit (c : Char) : isLowSurrogate (lowUnit c) = true := by
  rw [isLowSurrogate, Bool.and_eq_true, decide_eq_true_eq, decide_eq_true_eq]
  unfold lowUnit
  omega

theorem highUnit_lt (c : Char) : highUnit c < 0x10000 := by
  have hrange := toNat_range c
  unfold highUnit
  omega

theorem lowUnit_lt (c : Char) : lowUnit c < 0x10000 := by
  unfold lowUnit
  omega

theorem surrogatePair_units {c : Char} (h : 0x10000 ≤ c.toNat) :
    surrogatePair (highUnit c) (lowUnit c) = c.toNat := by
  unfold surrogatePair highUnit lowUnit
  omega

theorem length_unitEscape {u : Nat} (h : u < 0x10000) : (unitEscape u).length = 6 := by
  rw [unitEscape, List.length_cons, List.length_cons, length_hex_four h]

theorem unicodeEscape_surrogates {u v : Nat} (hu : isHighSurrogate u = true)
    (hv : isLowSurrogate v = true) (hlt : v < 0x10000) {cs : List Char} (hcs : cs ≠ []) :
    unicodeEscape u (unitEscape v ++ cs) = .ok (Char.ofNat (surrogatePair u v), 11) := by
  simp only [unitEscape, List.cons_append, unicodeEscape, hu, lt_length_hex_append hlt hcs,
    decide_true, Bool.and_self, if_true, hexUnit?_hex hlt, hv]

theorem unicodeEscape_pair {c : Char} (h : 0x10000 ≤ c.toNat) {cs : List Char} (hcs : cs ≠ []) :
    unicodeEscape (highUnit c) (unitEscape (lowUnit c) ++ cs) = .ok (c, 11) := by
  rw [unicodeEscape_surrogates (isHighSurrogate_highUnit c) (isLowSurrogate_lowUnit c)
    (lowUnit_lt c) hcs, surrogatePair_units h, Char.ofNat_toNat]

/-- The forms in which a character is written. -/
inductive Form (c : Char) : List Char → Prop where
  | short {e : Char} (h : shortEscape? e = some c) (he : ' ' ≤ e ∧ e ≤ '~') : Form c ['\\', e]
  | itself (h : ' ' ≤ c ∧ c ≤ '~') (hquote : c ≠ '"') (hbackslash : c ≠ '\\') : Form c [c]
  | unit (h : c.toNat < 0x10000) : Form c (unitEscape c.toNat)
  | pair (h : 0x10000 ≤ c.toNat) : Form c (unitEscape (highUnit c) ++ unitEscape (lowUnit c))

/-- Every character is written in one of the three forms. -/
theorem escapeChar_form (c : Char) : Form c (escapeChar c) := by
  unfold escapeChar
  split_ifs with hquote hbackslash hn hr ht hf hb hprintable hunit
  · exact .short (by rw [hquote]; rfl) (by decide)
  · exact .short (by rw [hbackslash]; rfl) (by decide)
  · exact .short (by rw [hn]; rfl) (by decide)
  · exact .short (by rw [hr]; rfl) (by decide)
  · exact .short (by rw [ht]; rfl) (by decide)
  · exact .short (by rw [hf]; rfl) (by decide)
  · exact .short (by rw [hb]; rfl) (by decide)
  · exact .itself (by simpa using hprintable) hquote hbackslash
  · exact .unit hunit
  · exact .pair (Nat.le_of_not_lt hunit)

theorem readText_drop (k : Nat) (cs : List Char) :
    readText opening k cs = readText opening 0 (cs.drop k) := by
  induction k generalizing cs with
  | zero => rfl
  | succ k ih =>
    cases cs with
    | nil => rfl
    | cons c cs => exact ih cs

theorem readText_escape {cs : List Char} {c : Char} {k : Nat} (h : escape opening cs = .ok (c, k)) :
    readText opening 0 ('\\' :: cs) =
      (readText opening 0 (cs.drop k)).map fun (text, rest) => (c :: text, rest) := by
  rw [readText.eq_def]
  simp only [h, ← readText_drop]
  rfl

theorem readText_unitEscape {u k : Nat} (h : u < 0x10000) {cs : List Char} (hcs : cs ≠ [])
    {c : Char} (hc : unicodeEscape u cs = .ok (c, 5 + k)) :
    readText opening 0 (unitEscape u ++ cs) =
      (readText opening 0 (cs.drop k)).map fun (text, rest) => (c :: text, rest) := by
  have hdrop : ('u' :: (hex 4 u ++ cs)).drop (5 + k) = cs.drop k := by
    rw [← List.drop_drop, List.drop_succ_cons, List.drop_left' (length_hex_four h)]
  rw [unitEscape, List.cons_append, List.cons_append,
    readText_escape ((escape_unit h hcs).trans hc), hdrop]

/-- A form of a character is read as that character, if something follows. -/
theorem Form.readText_append {c : Char} {form : List Char} (h : Form c form) {cs : List Char}
    (hcs : cs ≠ []) :
    readText opening 0 (form ++ cs) =
      (readText opening 0 cs).map fun (text, rest) => (c :: text, rest) := by
  cases h with
  | short he =>
    rename_i e _
    have hescape : escape opening (e :: cs) = .ok (c, 1) := by
      have hu : e ≠ 'u' := by
        rintro rfl
        cases he
      simp [escape, he]
    exact readText_escape hescape
  | itself h hquote hbackslash =>
    have hcontrol : ¬ c.toNat < 0x20 := Nat.not_lt.mpr (UInt32.le_iff_toNat_le.mp h.1)
    rw [List.singleton_append, readText, if_neg hquote, if_neg hbackslash, if_neg hcontrol]
  | unit h => exact readText_unitEscape (k := 0) h hcs (unicodeEscape_char c cs)
  | pair h =>
    have hne : unitEscape (lowUnit c) ++ cs ≠ [] := List.append_ne_nil_of_right_ne_nil _ hcs
    have hdrop : (unitEscape (lowUnit c) ++ cs).drop 6 = cs :=
      List.drop_left' (length_unitEscape (lowUnit_lt c))
    rw [List.append_assoc,
      readText_unitEscape (k := 6) (highUnit_lt c) hne (unicodeEscape_pair h hcs), hdrop]

/-- A text in quotation marks is read as itself. -/
theorem readText_written (cs rest : List Char) :
    readText opening 0 (cs.flatMap escapeChar ++ '"' :: rest) = .ok (cs, rest) := by
  induction cs with
  | nil => rfl
  | cons c cs ih =>
    rw [List.flatMap_cons, List.append_assoc, (escapeChar_form c).readText_append (by simp), ih]
    rfl

/-- Printable ASCII characters alone. -/
def IsPlain (cs : List Char) : Prop :=
  ∀ c ∈ cs, ' ' ≤ c ∧ c ≤ '~'

instance (cs : List Char) : Decidable (IsPlain cs) :=
  List.decidableBAll (fun c => ' ' ≤ c ∧ c ≤ '~') cs

theorem isPlain_append {cs cs' : List Char} : IsPlain (cs ++ cs') ↔ IsPlain cs ∧ IsPlain cs' :=
  List.forall_mem_append

theorem isPlain_cons {c : Char} {cs : List Char} :
    IsPlain (c :: cs) ↔ (' ' ≤ c ∧ c ≤ '~') ∧ IsPlain cs :=
  List.forall_mem_cons

theorem isPlain_unitEscape {u : Nat} (h : u < 0x10000) : IsPlain (unitEscape u) := by
  have hdigit {n : Nat} (hn : n < 16) : ' ' ≤ n.digitChar ∧ n.digitChar ≤ '~' := by
    interval_cases n <;> decide
  have hmod (n : Nat) := hdigit (Nat.mod_lt n (show 0 < 16 by decide))
  have hfirst := hdigit (show u / 4096 < 16 by omega)
  rw [unitEscape, hex_four h]
  simp only [isPlain_cons, hfirst, hmod, true_and]
  decide

theorem Form.isPlain {c : Char} {form : List Char} (h : Form c form) : IsPlain form := by
  cases h with
  | short _ he => exact isPlain_cons.mpr ⟨by decide, isPlain_cons.mpr ⟨he, by decide⟩⟩
  | itself h => exact isPlain_cons.mpr ⟨h, by decide⟩
  | unit h => exact isPlain_unitEscape h
  | pair =>
    exact isPlain_append.mpr
      ⟨isPlain_unitEscape (highUnit_lt c), isPlain_unitEscape (lowUnit_lt c)⟩

theorem isPlain_writeText (cs : List Char) : IsPlain (writeText cs) := by
  have hall : IsPlain (cs.flatMap escapeChar) := by
    intro d hd
    obtain ⟨c, -, hc⟩ := List.mem_flatMap.mp hd
    exact (escapeChar_form c).isPlain d hc
  exact isPlain_cons.mpr ⟨by decide, isPlain_append.mpr ⟨hall, by decide⟩⟩

end UptimeAlert.Json
