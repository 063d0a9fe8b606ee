import Mathlib.Data.List.Nodup
import UptimeAlert.Proofs.Json.Atom
import UptimeAlert.Proofs.Json.Text

namespace UptimeAlert.Value

mutual

/-- How many lists and records lie within one another in a value. -/
def depth : Value → Nat
  | .list items => depthOfItems items + 1
  | .record fields => depthOfFields fields + 1
  | _ => 0

def depthOfItems : List Value → Nat
  | [] => 0
  | v :: vs => max (depth v) (depthOfItems vs)

def depthOfFields : List (String × Value) → Nat
  | [] => 0
  | (_, v) :: rest => max (depth v) (depthOfFields rest)

end

theorem depth_list_le_iff {items : List Value} {room : Nat} :
    (list items).depth ≤ room + 1 ↔ ∀ v ∈ items, v.depth ≤ room := by
  rw [depth, Nat.add_le_add_iff_right]
  induction items with
  | nil => simp [depthOfItems]
  | cons v items ih => rw [depthOfItems, Nat.max_le, ih, List.forall_mem_cons]

theorem depth_record_le_iff {fields : Fields} {room : Nat} :
    (record fields).depth ≤ room + 1 ↔ ∀ f ∈ fields, f.2.depth ≤ room := by
  rw [depth, Nat.add_le_add_iff_right]
  induction fields with
  | nil => simp [depthOfFields]
  | cons f fields ih => rw [depthOfFields, Nat.max_le, ih, List.forall_mem_cons]

end UptimeAlert.Value

namespace UptimeAlert.Json

open UptimeAlert.Text

/-- A value of the kinds that JSON texts know: without floating-point numbers and what is written as
something else, its whole numbers of some kind and the names of each record distinct. -/
inductive Portable (p : Int → Prop) : Value → Prop where
  | null : Portable p .null
  | bool (b : Bool) : Portable p (.bool b)
  | int {n : Int} (h : p n) : Portable p (.int n)
  | text (s : String) : Portable p (.text s)
  | list {items : List Value} (h : ∀ v ∈ items, Portable p v) : Portable p (.list items)
  | record {fields : Fields} (hnames : (fields.map Prod.fst).Nodup)
    (h : ∀ f ∈ fields, Portable p f.2) : Portable p (.record fields)

theorem writeItems_eq_map (vs : List Value) : writeItems vs = vs.map write := by
  induction vs with
  | nil => rfl
  | cons v vs ih => exact congrArg (List.cons (write v)) ih

theorem write_list (items : List Value) :
    write (.list items) = '[' :: commaSeparated (items.map write) ++ [']'] :=
  congrArg (fun texts => '[' :: commaSeparated texts ++ [']']) (writeItems_eq_map items)

def writeField (f : String × Value) : List Char :=
  writeText f.1.toList ++ ':' :: ' ' :: write f.2

theorem writeFields_eq_map (fields : Fields) : writeFields fields = fields.map writeField := by
  induction fields with
  | nil => rfl
  | cons f fields ih => exact congrArg (List.cons (writeField f)) ih

theorem write_record (fields : Fields) :
    write (.record fields) = '{' :: commaSeparated (fields.map writeField) ++ ['}'] :=
  congrArg (fun texts => '{' :: commaSeparated texts ++ ['}']) (writeFields_eq_map fields)

theorem commaSeparated_singleton (text : List Char) : commaSeparated [text] = text :=
  List.intercalate_singleton

theorem commaSeparated_cons_cons (text next : List Char) (texts : List (List Char)) :
    commaSeparated (text :: next :: texts) =
      text ++ ',' :: ' ' :: commaSeparated (next :: texts) := by
  simp [commaSeparated, List.intercalate_cons_cons]

theorem skipSpace_cons {c : Char} (h : isSpace c = false) (cs : List Char) :
    skipSpace (c :: cs) = c :: cs := by
  simp [skipSpace, h]

theorem skipSpace_space (cs : List Char) : skipSpace (' ' :: cs) = skipSpace cs := by
  simp [skipSpace, isSpace]

/-- A value is read back from its text by a reader that has room for its depth, whatever follows the
text. -/
structure ReadsBack (v : Value) : Prop where
  opens : ∃ c cs, write v = c :: cs ∧ isSpace c = false ∧ c ≠ ']'
  reads {n room : Nat} {rest : List Char} (hn : (write v).length ≤ n + 1) (hroom : v.depth ≤ room)
    (hrest : EndsNumber rest) : readValue (n + 1) room (write v ++ rest) = .ok (v, rest)

theorem ReadsBack.skipSpace_append {v : Value} (h : ReadsBack v) (rest : List Char) :
    skipSpace (write v ++ rest) = write v ++ rest := by
  obtain ⟨c, cs, hc, hspace, -⟩ := h.opens
  rw [hc, List.cons_append, skipSpace_cons hspace]

theorem ReadsBack.readValue_append {v : Value} (h : ReadsBack v) {n room : Nat} {rest : List Char}
    (hn : (write v).length ≤ n) (hroom : v.depth ≤ room) (hrest : EndsNumber rest) :
    readValue n room (write v ++ rest) = .ok (v, rest) := by
  obtain ⟨c, cs, hc, -⟩ := h.opens
  cases n with
  | zero => simp [hc] at hn
  | succ n => exact h.reads hn hroom hrest

theorem readValue_atom {n room : Nat} {c : Char} (hc : c ∉ ['"', '[', '{']) (cs : List Char) :
    readValue (n + 1) room (c :: cs) = readAtom (c :: cs) := by
  simp only [List.mem_cons, List.not_mem_nil, or_false, not_or] at hc
  simp [readValue, hc]

/-- A value that begins like none of the composed ones is read by the reader of atoms. -/
theorem readsBack_of_readAtom {v : Value} {c : Char} {cs : List Char} (hv : write v = c :: cs)
    (hspace : isSpace c = false) (hc : c ∉ ['"', '[', ']', '{'])
    (hread : ∀ rest, EndsNumber rest → readAtom (write v ++ rest) = .ok (v, rest)) :
    ReadsBack v where
  opens := by
    refine ⟨c, cs, hv, hspace, ?_⟩
    rintro rfl
    exact absurd hc (by decide)
  reads {n room rest} _ _ hrest := by
    have hc' : c ∉ ['"', '[', '{'] := fun h => hc (List.Sublist.mem h (by decide))
    rw [← hread rest hrest, hv, List.cons_append, readValue_atom hc']

theorem readsBack_null : ReadsBack .null :=
  readsBack_of_readAtom (c := 'n') rfl rfl (by decide) fun _ _ => rfl

theorem readsBack_bool (b : Bool) : ReadsBack (.bool b) := by
  cases b with
  | false => exact readsBack_of_readAtom (c := 'f') rfl rfl (by decide) fun _ _ => rfl
  | true => exact readsBack_of_readAtom (c := 't') rfl rfl (by decide) fun _ _ => rfl

theorem readsBack_int {n : Int} (hn : IsShort n) : ReadsBack (.int n) := by
  obtain ⟨c, cs, hc, hopens⟩ :
      ∃ c cs, signedDecimal n = c :: cs ∧ (isDigit c = true ∨ c = '-') := by
    cases n with
    | ofNat n =>
      obtain ⟨d, ds, h, hdigit⟩ := exists_decimal_cons n
      exact ⟨d, ds, h, .inl hdigit⟩
    | negSucc n => exact ⟨'-', decimal (n + 1), rfl, .inr rfl⟩
  have hplain : isSpace c = false ∧ c ∉ ['"', '[', ']', '{'] := by
    obtain hdigit | rfl := hopens
    · exact forall_digits (p := fun c => isSpace c = false ∧ c ∉ ['"', '[', ']', '{'])
        (by decide) hdigit
    · decide
  exact readsBack_of_readAtom hc hplain.1 hplain.2 fun rest => readAtom_signedDecimal hn

theorem writeText_append (cs rest : List Char) :
    writeText cs ++ rest = '"' :: (cs.flatMap escapeChar ++ '"' :: rest) := by
  simp [writeText]

theorem readValue_quote (n room : Nat) (cs : List Char) :
    readValue (n + 1) room ('"' :: cs) =
      (readText (cs.length + 1) 0 cs).map fun (t, rest) => (.text (String.ofList t), rest) :=
  rfl

theorem readsBack_text (s : String) : ReadsBack (.text s) where
  opens := ⟨'"', _, rfl, rfl, by decide⟩
  reads {n room rest} _ _ _ := by
    have hwrite : write (.text s) ++ rest = _ := writeText_append s.toList rest
    have hs : String.ofList s.toList = s := String.ofList_toList
    rw [hwrite, readValue_quote, readText_written]
    exact congrArg (fun t => Except.ok (Value.text t, rest)) hs

theorem exists_commaSeparated_cons (text : List Char) (texts : List (List Char)) :
    ∃ more, commaSeparated (text :: texts) = text ++ more := by
  cases texts with
  | nil => exact ⟨[], by rw [commaSeparated_singleton, List.append_nil]⟩
  | cons next texts => exact ⟨_, commaSeparated_cons_cons text next texts⟩

theorem readItems_last {n room : Nat} {cs rest : List Char} {v : Value}
    (h : readValue n room cs = .ok (v, ']' :: rest)) :
    readItems (n + 1) room cs = .ok ([v], rest) := by
  rw [readItems, h]
  rfl

theorem readItems_comma {n room : Nat} {cs rest : List Char} {v : Value}
    (h : readValue n room cs = .ok (v, ',' :: rest)) :
    readItems (n + 1) room cs =
      (readItems n room (skipSpace rest)).map fun (vs, rest) => (v :: vs, rest) := by
  rw [readItems, h]
  rfl

/-- The items of a list are read back up to its closing bracket. -/
theorem readItems_written {vs : List Value} (hne : vs ≠ []) (hvs : ∀ v ∈ vs, ReadsBack v)
    {n room : Nat} (hn : (commaSeparated (vs.map write)).length < n)
    (hroom : ∀ v ∈ vs, v.depth ≤ room) (rest : List Char) :
    readItems n room (commaSeparated (vs.map write) ++ ']' :: rest) = .ok (vs, rest) := by
  -- Each item takes one level from the reader and at least two characters from the text.
  induction vs generalizing n with
  | nil => exact absurd rfl hne
  | cons v vs ih =>
    obtain ⟨n, rfl⟩ := Nat.exists_eq_add_one.mpr (Nat.zero_lt_of_lt hn)
    have hv := hvs v List.mem_cons_self
    have hdepth := hroom v List.mem_cons_self
    cases vs with
    | nil =>
      rw [List.map_singleton, commaSeparated_singleton] at hn ⊢
      exact readItems_last (hv.readValue_append (Nat.le_of_lt_succ hn) hdepth
        (endsNumber_cons (by decide) (by decide) rest))
    | cons w vs =>
      have hmore := fun hn => ih (List.cons_ne_nil w vs)
        (fun u hu => hvs u (List.mem_cons_of_mem v hu)) (n := n) hn
        (fun u hu => hroom u (List.mem_cons_of_mem v hu))
      have hskip : skipSpace (' ' :: (commaSeparated ((w :: vs).map write) ++ ']' :: rest)) =
          commaSeparated ((w :: vs).map write) ++ ']' :: rest := by
        obtain ⟨more, hw⟩ := exists_commaSeparated_cons (write w) (vs.map write)
        rw [skipSpace_space, List.map_cons, hw, List.append_assoc,
          (hvs w (by simp)).skipSpace_append]
      rw [List.map_cons, List.map_cons, commaSeparated_cons_cons, ← List.map_cons] at hn ⊢
      rw [List.length_append, List.length_cons, List.length_cons] at hn
      have hread := hv.readValue_append (n := n) (by omega) hdepth
        (endsNumber_cons (c := ',') (by decide) (by decide)
          (' ' :: (commaSeparated ((w :: vs).map write) ++ ']' :: rest)))
      rw [List.append_assoc, List.cons_append, List.cons_append, readItems_comma hread, hskip,
        hmore (by omega)]
      rfl

theorem readValue_list {n room : Nat} {c : Char} (hspace : isSpace c = false) (hclose : c ≠ ']')
    {cs rest : List Char} {vs : List Value} (h : readItems n room (c :: cs) = .ok (vs, rest)) :
    readValue (n + 1) (room + 1) ('[' :: c :: cs) = .ok (.list vs, rest) := by
  simp [readValue, skipSpace_cons hspace, hclose, h, Except.map]

/-- A list is read back if its items are, with one level of room for the list itself. -/
theorem readsBack_list {vs : List Value} (hvs : ∀ v ∈ vs, ReadsBack v) : ReadsBack (.list vs) where
  opens := ⟨'[', _, rfl, rfl, by decide⟩
  reads {n room rest} hn hroom _ := by
    obtain ⟨room, rfl⟩ := Nat.exists_eq_add_one.mpr (Nat.lt_of_lt_of_le (Nat.zero_lt_succ _) hroom)
    cases vs with
    | nil => rfl
    | cons v vs =>
      rw [write_list, List.length_append, List.length_cons,
        List.length_singleton] at hn
      have hread := readItems_written (List.cons_ne_nil v vs) hvs (n := n) (by omega)
        (Value.depth_list_le_iff.mp hroom) rest
      obtain ⟨more, hmore⟩ := exists_commaSeparated_cons (write v) (vs.map write)
      obtain ⟨c, cs, hc, hspace, hclose⟩ := (hvs v List.mem_cons_self).opens
      rw [List.map_cons, hmore, hc] at hread
      rw [write_list, List.map_cons, hmore, hc]
      simp only [List.cons_append, List.append_assoc, List.nil_append] at hread ⊢
      exact readValue_list hspace hclose hread

theorem put_of_not_mem {fields : Fields} {name : String} (h : name ∉ fields.map Prod.fst)
    (v : Value) : fields.put name v = fields ++ [(name, v)] := by
  induction fields with
  | nil => rfl
  | cons f fields ih =>
    rw [List.map_cons, List.mem_cons, not_or] at h
    rw [Fields.put, if_neg (Ne.symm h.1), ih h.2, List.cons_append]

theorem writeField_append (f : String × Value) (rest : List Char) :
    writeField f ++ rest =
      '"' :: (f.1.toList.flatMap escapeChar ++ '"' :: ':' :: ' ' :: (write f.2 ++ rest)) := by
  simp [writeField, writeText]

theorem length_write_lt (f : String × Value) : (write f.2).length < (writeField f).length := by
  rw [writeField, List.length_append, List.length_cons, List.length_cons]
  omega

/-- What the reader makes of a written field: it has the value, and a comma or the closing brace
tells whether another field follows. -/
theorem readFields_field {n room : Nat} {fields : Fields} {f : String × Value}
    (hf : ReadsBack f.2) (hn : (writeField f).length ≤ n) (hroom : f.2.depth ≤ room) {mark : Char}
    (hmark : mark = ',' ∨ mark = '}') (rest : List Char) :
    readFields (n + 1) room fields (writeField f ++ mark :: rest) =
      if mark = ',' then readFields n room (fields.put f.1 f.2) (skipSpace rest)
      else .ok (fields.put f.1 f.2, rest) := by
  have hplain : isSpace mark = false ∧ isDigit mark = false ∧ mark ∉ ['.', 'e', 'E'] := by
    obtain rfl | rfl := hmark <;> decide
  have hread := hf.readValue_append (Nat.le_of_lt (Nat.lt_of_lt_of_le (length_write_lt f) hn))
    hroom (endsNumber_cons hplain.2.1 hplain.2.2 rest)
  rw [writeField_append, readFields, readText_written]
  simp only [skipSpace_cons (show isSpace ':' = false from rfl), skipSpace_space,
    hf.skipSpace_append, hread, skipSpace_cons hplain.1, String.ofList_toList]
  obtain rfl | rfl := hmark <;> rfl

/-- The fields of a record are read back up to its closing brace, after those already read. -/
theorem readFields_written {fields : Fields} (hne : fields ≠ [])
    (hfields : ∀ f ∈ fields, ReadsBack f.2) {before : Fields}
    (hnames : ((before ++ fields).map Prod.fst).Nodup) {n room : Nat}
    (hn : (commaSeparated (fields.map writeField)).length < n)
    (hroom : ∀ f ∈ fields, f.2.depth ≤ room) (rest : List Char) :
    readFields n room before (commaSeparated (fields.map writeField) ++ '}' :: rest) =
      .ok (before ++ fields, rest) := by
  -- A name that is not among those before goes to the end, so the fields keep their order.
  induction fields generalizing before n with
  | nil => exact absurd rfl hne
  | cons f fields ih =>
    obtain ⟨n, rfl⟩ := Nat.exists_eq_add_one.mpr (Nat.zero_lt_of_lt hn)
    have hf := hfields f List.mem_cons_self
    have hdepth := hroom f List.mem_cons_self
    have hput : before.put f.1 f.2 = before ++ [f] := by
      rw [List.map_append, List.map_cons, List.nodup_middle, List.nodup_cons, List.mem_append,
        not_or] at hnames
      exact put_of_not_mem hnames.1.1 f.2
    cases fields with
    | nil =>
      rw [List.map_singleton, commaSeparated_singleton] at hn ⊢
      rw [readFields_field hf (Nat.le_of_lt_succ hn) hdepth (.inr rfl), if_neg (by decide), hput]
    | cons g fields =>
      have hnames' : ((before ++ [f] ++ g :: fields).map Prod.fst).Nodup := by
        rwa [List.append_assoc, List.singleton_append]
      have hmore := fun hn => ih (List.cons_ne_nil g fields)
        (fun h hh => hfields h (List.mem_cons_of_mem f hh)) hnames' (n := n) hn
        (fun h hh => hroom h (List.mem_cons_of_mem f hh))
      have hskip :
          skipSpace (' ' :: (commaSeparated ((g :: fields).map writeField) ++ '}' :: rest)) =
          commaSeparated ((g :: fields).map writeField) ++ '}' :: rest := by
        obtain ⟨more, hg⟩ := exists_commaSeparated_cons (writeField g) (fields.map writeField)
        rw [skipSpace_space, List.map_cons, hg, List.append_assoc, writeField_append,
          skipSpace_cons rfl]
      rw [List.map_cons, List.map_cons, commaSeparated_cons_cons, ← List.map_cons] at hn ⊢
      rw [List.length_append, List.length_cons, List.length_cons] at hn
      rw [List.append_assoc, List.cons_append, List.cons_append,
        readFields_field hf (by omega) hdepth (.inl rfl), if_pos rfl, hskip, hput, hmore (by omega),
        List.append_assoc, List.singleton_append]

theorem readValue_record {n room : Nat} {cs rest : List Char} {fields : Fields}
    (h : readFields n room [] ('"' :: cs) = .ok (fields, rest)) :
    readValue (n + 1) (room + 1) ('{' :: '"' :: cs) = .ok (.record fields, rest) := by
  simp [readValue, skipSpace_cons (c := '"') rfl, h, Except.map]

/-- A record is read back if its fields are; equal names would be put together. -/
theorem readsBack_record {fields : Fields} (hnames : (fields.map Prod.fst).Nodup)
    (hfields : ∀ f ∈ fields, ReadsBack f.2) : ReadsBack (.record fields) where
  opens := ⟨'{', _, rfl, rfl, by decide⟩
  reads {n room rest} hn hroom _ := by
    obtain ⟨room, rfl⟩ := Nat.exists_eq_add_one.mpr (Nat.lt_of_lt_of_le (Nat.zero_lt_succ _) hroom)
    cases fields with
    | nil => rfl
    | cons f fields =>
      rw [write_record, List.length_append, List.length_cons,
        List.length_singleton] at hn
      have hread := readFields_written (List.cons_ne_nil f fields) hfields
        (show (([] ++ f :: fields).map Prod.fst).Nodup from hnames) (n := n) (by omega)
        (Value.depth_record_le_iff.mp hroom) rest
      obtain ⟨more, hmore⟩ := exists_commaSeparated_cons (writeField f) (fields.map writeField)
      rw [List.map_cons, hmore, List.append_assoc, writeField_append, List.nil_append] at hread
      rw [write_record, List.map_cons, hmore, List.cons_append, List.cons_append,
        List.append_assoc, List.append_assoc, writeField_append]
      exact readValue_record hread

/-- Every value of the kinds that JSON texts know is read back, if its whole numbers are short. -/
theorem Portable.readsBack {v : Value} (h : Portable IsShort v) : ReadsBack v := by
  induction h with
  | null => exact readsBack_null
  | bool b => exact readsBack_bool b
  | int hn => exact readsBack_int hn
  | text s => exact readsBack_text s
  | list _ ih => exact readsBack_list ih
  | record hnames _ ih => exact readsBack_record hnames ih

/-- The text of such a value as a whole is read as the value, if there is room for its depth. -/
theorem read_write {v : Value} (h : Portable IsShort v) {room : Nat} (hroom : v.depth ≤ room) :
    read room (write v) = .ok v := by
  have hread := h.readsBack.readValue_append (n := 2 * (write v).length + 2) (by omega) hroom
    endsNumber_nil
  have hskip := h.readsBack.skipSpace_append []
  rw [List.append_nil] at hread hskip
  rw [read, hskip, hread]
  rfl

theorem isPlain_signedDecimal (n : Int) : IsPlain (signedDecimal n) := by
  have hdecimal (n : Nat) : IsPlain (decimal n) := fun d hd =>
    forall_digits (p := fun d => ' ' ≤ d ∧ d ≤ '~') (by decide) (isDigit_of_mem_decimal hd)
  cases n with
  | ofNat n => exact hdecimal n
  | negSucc n => exact isPlain_cons.mpr ⟨by decide, hdecimal (n + 1)⟩

theorem isPlain_commaSeparated {texts : List (List Char)} (h : ∀ text ∈ texts, IsPlain text) :
    IsPlain (commaSeparated texts) := by
  induction texts with
  | nil => decide
  | cons text texts ih =>
    cases texts with
    | nil =>
      rw [commaSeparated_singleton]
      exact h text List.mem_cons_self
    | cons next texts =>
      rw [commaSeparated_cons_cons, isPlain_append, isPlain_cons, isPlain_cons]
      exact ⟨h text List.mem_cons_self, by decide, by decide,
        ih fun t ht => h t (List.mem_cons_of_mem text ht)⟩

theorem isPlain_enclosed {first last : Char} {cs : List Char} (hfirst : ' ' ≤ first ∧ first ≤ '~')
    (hlast : ' ' ≤ last ∧ last ≤ '~') (h : IsPlain cs) : IsPlain (first :: cs ++ [last]) :=
  isPlain_cons.mpr ⟨hfirst, isPlain_append.mpr ⟨h, List.forall_mem_singleton.mpr hlast⟩⟩

/-- The text of a value has only printable ASCII characters. -/
theorem Portable.isPlain_write {p : Int → Prop} {v : Value} (h : Portable p v) :
    IsPlain (write v) := by
  induction h with
  | null => decide
  | bool b => cases b <;> decide
  | @int n _ => exact isPlain_signedDecimal n
  | text s => exact isPlain_writeText s.toList
  | @list items _ ih =>
    rw [write_list]
    refine isPlain_enclosed (by decide) (by decide) (isPlain_commaSeparated ?_)
    simpa using ih
  | @record fields _ _ ih =>
    rw [write_record]
    refine isPlain_enclosed (by decide) (by decide) (isPlain_commaSeparated ?_)
    intro text htext
    obtain ⟨f, hf, rfl⟩ := List.mem_map.mp htext
    exact isPlain_append.mpr ⟨isPlain_writeText _,
      isPlain_cons.mpr ⟨by decide, isPlain_cons.mpr ⟨by decide, ih f hf⟩⟩⟩

end UptimeAlert.Json
