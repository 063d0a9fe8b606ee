import UptimeAlert.RenderError

namespace UptimeAlert

/-- Putting a field adds it, and no other. -/
theorem Fields.mem_put {fields : Fields} {name : String} {v : Value} {f : String × Value}
    (h : f ∈ fields.put name v) : f = (name, v) ∨ f ∈ fields := by
  induction fields with
  | nil => exact .inl (List.mem_singleton.mp h)
  | cons g fields ih =>
    rw [Fields.put] at h
    split at h
    · obtain rfl | hmem := List.mem_cons.mp h
      · exact .inl rfl
      · exact .inr (List.mem_cons_of_mem g hmem)
    · obtain rfl | hmem := List.mem_cons.mp h
      · exact .inr List.mem_cons_self
      · exact (ih hmem).imp id (List.mem_cons_of_mem g)

namespace Value

@[simp]
theorem isWritable_text (s : String) : (Value.text s).isWritable = true :=
  rfl

theorem isWritable_int_iff {n : Int} : (Value.int n).isWritable = true ↔ IsShort n :=
  decide_eq_true_iff

theorem isWritable_list_iff {items : List Value} :
    (Value.list items).isWritable = true ↔ ∀ v ∈ items, v.isWritable = true := by
  induction items with
  | nil => simp [isWritable, areWritable]
  | cons v items ih =>
    have hitems : areWritable items = (Value.list items).isWritable := rfl
    rw [isWritable, areWritable, hitems, Bool.and_eq_true, ih, List.forall_mem_cons]

theorem isWritable_record_iff {fields : Fields} :
    (Value.record fields).isWritable = true ↔ ∀ f ∈ fields, f.2.isWritable = true := by
  induction fields with
  | nil => simp [isWritable, fieldsWritable]
  | cons f fields ih =>
    have hfields : fieldsWritable fields = (Value.record fields).isWritable := rfl
    rw [isWritable, fieldsWritable, hfields, Bool.and_eq_true, ih, List.forall_mem_cons]

/-- What stands for a value that is not given can be written, and so the two together if the value
can. -/
theorem isWritable_orElse {other : Value} (hother : other.isWritable = true) (v : Value) :
    (v.orElse other).isWritable = v.isWritable := by
  unfold orElse
  split
  · rfl
  · rename_i hfalsy
    rw [hother]
    cases v with
    | int n =>
      obtain rfl : n = 0 := by simpa [isTruthy] using hfalsy
      rfl
    | list items =>
      obtain rfl : items = [] := by simpa [isTruthy] using hfalsy
      rfl
    | record fields =>
      obtain rfl : fields = [] := by simpa [isTruthy] using hfalsy
      rfl
    | _ => rfl

theorem isWritable_ifNull {other : Value} (hother : other.isWritable = true) (v : Value) :
    (v.ifNull other).isWritable = v.isWritable := by
  cases v with
  | null => exact hother
  | _ => rfl

theorem isWritable_get {fields : Fields} (h : ∀ f ∈ fields, f.2.isWritable = true)
    (name : String) : (fields.get name).isWritable = true := by
  unfold Fields.get
  cases hget : fields.get? name with
  | none => rfl
  | some v =>
    obtain ⟨before, after, rfl, -⟩ := List.lookup_eq_some_iff.mp hget
    exact h (name, v) (by simp)

variable {α : Type} {v : Value}

theorem ifWritable_of_isWritable (h : v.isWritable = true) (a : α) : v.ifWritable a = .ok a :=
  if_pos h

theorem ifWritable_of_not (h : ¬ v.isWritable = true) (a : α) :
    v.ifWritable a = .error (.fault .tooManyDigits) :=
  if_neg h

theorem ifWritable_eq_ok_iff {a b : α} :
    v.ifWritable a = .ok b ↔ v.isWritable = true ∧ a = b := by
  unfold ifWritable
  split <;> simp_all

/-- Nothing but the limit of digits keeps a value from being written. -/
theorem ifWritable_eq_error_iff {a : α} {e : RenderError} :
    v.ifWritable a = .error e ↔ ¬ v.isWritable = true ∧ e = .fault .tooManyDigits := by
  by_cases h : v.isWritable = true
  · simp [ifWritable_of_isWritable h, h]
  · rw [ifWritable_of_not h, Except.error.injEq, and_iff_right h, eq_comm]

end Value

theorem Status.refusal_of_isWritable {v : Value} (h : v.isWritable = true) :
    refusal v = .invalidStatus v :=
  if_pos h

theorem Status.refusal_of_not {v : Value} (h : ¬ v.isWritable = true) :
    refusal v = .fault .tooManyDigits :=
  if_neg h

end UptimeAlert
