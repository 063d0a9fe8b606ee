import UptimeAlert.Proofs.Json.ReadBack
import UptimeAlert.Proofs.Steps
import UptimeAlert.Proofs.Value.Writable

namespace UptimeAlert.Json

/-- A value can be written, and its lists and records are not too deep. -/
structure Limited (room : Nat) (v : Value) : Prop where
  isWritable : v.isWritable = true
  depth_le : v.depth ≤ room

variable {n room : Nat}

theorem Atom.limited {v : Value} (h : Atom v) : Limited room v := by
  cases h with
  | int hn => exact ⟨Value.isWritable_int_iff.mpr hn, Nat.zero_le room⟩
  | _ => exact ⟨rfl, Nat.zero_le room⟩

theorem limited_list {vs : List Value} (h : ∀ v ∈ vs, Limited room v) :
    Limited (room + 1) (.list vs) where
  isWritable := Value.isWritable_list_iff.mpr fun v hv => (h v hv).isWritable
  depth_le := Value.depth_list_le_iff.mpr fun v hv => (h v hv).depth_le

theorem limited_record {fields : Fields} (h : ∀ f ∈ fields, Limited room f.2) :
    Limited (room + 1) (.record fields) where
  isWritable := Value.isWritable_record_iff.mpr fun f hf => (h f hf).isWritable
  depth_le := Value.depth_record_le_iff.mpr fun f hf => (h f hf).depth_le

/-- What a value is read as: the reader has gone one level down for the parts of it. -/
inductive Reading (n : Nat) : Nat → Value → Prop where
  | atom {room : Nat} {v : Value} (h : Atom v) : Reading n room v
  | text {room : Nat} (s : String) : Reading n room (.text s)
  | emptyList {room : Nat} : Reading n (room + 1) (.list [])
  | list {room : Nat} {cs rest : List Char} {items : List Value}
    (h : readItems n room cs = .ok (items, rest)) : Reading n (room + 1) (.list items)
  | emptyRecord {room : Nat} : Reading n (room + 1) (.record [])
  | record {room : Nat} {cs rest : List Char} {fields : Fields}
    (h : readFields n room [] cs = .ok (fields, rest)) : Reading n (room + 1) (.record fields)

variable {cs rest : List Char}

/-- One step of the reader: the value is an atom, or its parts were read with one level less of
room. -/
theorem reading_of_readValue {v : Value} (h : readValue (n + 1) room cs = .ok (v, rest)) :
    Reading n room v := by
  rw [readValue.eq_def] at h
  dsimp only at h
  split at h
  · obtain ⟨⟨t, _⟩, -, hv⟩ := map_eq_ok_iff.mp h
    cases hv
    exact .text _
  · cases h
  · split at h
    · cases h
      exact .emptyList
    · obtain ⟨⟨items, _⟩, hread, hv⟩ := map_eq_ok_iff.mp h
      cases hv
      exact .list hread
  · cases h
  · split at h
    · cases h
      exact .emptyRecord
    · obtain ⟨⟨fields, _⟩, hread, hv⟩ := map_eq_ok_iff.mp h
      cases hv
      exact .record hread
  · exact .atom (atom_of_readAtom h)

theorem exists_of_readItems {vs : List Value} (h : readItems (n + 1) room cs = .ok (vs, rest)) :
    ∃ v more, (∃ left, readValue n room cs = .ok (v, left)) ∧ vs = v :: more ∧
      (more = [] ∨ ∃ next, readItems n room next = .ok (more, rest)) := by
  rw [readItems] at h
  cases hread : readValue n room cs with
  | error fault =>
    rw [hread] at h
    cases h
  | ok read =>
    rw [hread] at h
    dsimp only at h
    split at h
    · cases h
      exact ⟨read.1, [], ⟨_, rfl⟩, rfl, .inl rfl⟩
    · obtain ⟨⟨more, _⟩, hmore, hvs⟩ := map_eq_ok_iff.mp h
      cases hvs
      exact ⟨read.1, more, ⟨_, rfl⟩, rfl, .inr ⟨_, hmore⟩⟩
    · cases h

theorem exists_of_readFields {before fields : Fields}
    (h : readFields (n + 1) room before cs = .ok (fields, rest)) :
    ∃ name v, (∃ place left, readValue n room place = .ok (v, left)) ∧
      (fields = before.put name v ∨
        ∃ next, readFields n room (before.put name v) next = .ok (fields, rest)) := by
  rw [readFields.eq_def] at h
  dsimp only at h
  split at h
  · split at h
    · cases h
    · split at h
      · split at h
        · cases h
        · rename_i hread
          split at h
          · cases h
            exact ⟨_, _, ⟨_, _, hread⟩, .inl rfl⟩
          · exact ⟨_, _, ⟨_, _, hread⟩, .inr ⟨_, h⟩⟩
          · cases h
      · cases h
  · cases h

/-- What is read is limited, part by part: the induction is on the steps that the reader may take.
-/
theorem limited_of_reader (n : Nat) :
    (∀ {room cs v rest}, readValue n room cs = .ok (v, rest) → Limited room v) ∧
      (∀ {room cs vs rest}, readItems n room cs = .ok (vs, rest) → ∀ v ∈ vs, Limited room v) ∧
      ∀ {room before cs fields rest}, (∀ f ∈ before, Limited room f.2) →
        readFields n room before cs = .ok (fields, rest) → ∀ f ∈ fields, Limited room f.2 := by
  induction n with
  | zero =>
    refine ⟨fun h => ?_, fun h => ?_, fun _ h => ?_⟩
    · cases h
    · cases h
    · cases h
  | succ n ih =>
    obtain ⟨hvalue, hitems, hfields⟩ := ih
    refine ⟨fun h => ?_, fun h => ?_, fun hbefore h => ?_⟩
    · cases reading_of_readValue h with
      | atom h => exact h.limited
      | text s => exact ⟨rfl, Nat.zero_le _⟩
      | emptyList => exact limited_list (List.forall_mem_nil _)
      | list hread => exact limited_list (hitems hread)
      | emptyRecord => exact limited_record (List.forall_mem_nil _)
      | record hread => exact limited_record (hfields (List.forall_mem_nil _) hread)
    · obtain ⟨v, more, ⟨left, hread⟩, rfl, hmore⟩ := exists_of_readItems h
      refine List.forall_mem_cons.mpr ⟨hvalue hread, ?_⟩
      obtain rfl | ⟨next, hnext⟩ := hmore
      · exact List.forall_mem_nil _
      · exact hitems hnext
    · obtain ⟨name, v, ⟨place, left, hread⟩, hmore⟩ := exists_of_readFields h
      have hput : ∀ f ∈ Fields.put _ name v, Limited _ f.2 := fun f hf =>
        (Fields.mem_put hf).elim (fun hfield => hfield ▸ hvalue hread) (hbefore f)
      obtain rfl | ⟨next, hnext⟩ := hmore
      · exact hput
      · exact hfields hput hnext

/-- A value that is read can be written, and it is no deeper than the reader has room for. -/
theorem limited_of_read {v : Value} (h : read room cs = .ok v) : Limited room v := by
  rw [read] at h
  split at h
  · cases h
  · rename_i hread
    split at h
    · cases h
      exact (limited_of_reader _).1 hread
    · cases h

theorem Portable.isWritable {v : Value} (h : Portable IsShort v) : v.isWritable = true := by
  induction h with
  | int hn => exact Value.isWritable_int_iff.mpr hn
  | list _ ih => exact Value.isWritable_list_iff.mpr ih
  | record _ _ ih => exact Value.isWritable_record_iff.mpr ih
  | _ => rfl

/-- A value of the JSON kinds can be written exactly if its whole numbers are short. -/
theorem Portable.isWritable_iff {p : Int → Prop} {v : Value} (h : Portable p v) :
    v.isWritable = true ↔ Portable IsShort v := by
  refine ⟨fun hwritable => ?_, Portable.isWritable⟩
  induction h with
  | null => exact .null
  | bool b => exact .bool b
  | int _ => exact .int (Value.isWritable_int_iff.mp hwritable)
  | text s => exact .text s
  | list _ ih => exact .list fun v hv => ih v hv (Value.isWritable_list_iff.mp hwritable v hv)
  | record hnames _ ih =>
    exact .record hnames fun f hf => ih f hf (Value.isWritable_record_iff.mp hwritable f hf)

/-- A value of the JSON kinds is read from some text exactly if its whole numbers are short and its
lists and records are not too deep. -/
theorem exists_read_iff {p : Int → Prop} {v : Value} (hv : Portable p v) :
    (∃ cs, read room cs = .ok v) ↔ Portable IsShort v ∧ v.depth ≤ room := by
  constructor
  · rintro ⟨cs, h⟩
    exact ⟨hv.isWritable_iff.mp (limited_of_read h).isWritable, (limited_of_read h).depth_le⟩
  · rintro ⟨hshort, hroom⟩
    exact ⟨write v, read_write hshort hroom⟩

end UptimeAlert.Json
