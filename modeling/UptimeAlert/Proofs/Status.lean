import UptimeAlert.Proofs.Text.Blank
import UptimeAlert.RenderError

namespace UptimeAlert

open UptimeAlert.Text

namespace Status

/-- A value stands for a verdict. Capital letters of ASCII are enough for the names: no other
character has a capital form that consists of letters of the names alone. -/
inductive Denotes : Value → Status → Prop where
  | itself (s : Status) : Denotes (.status s) s
  | number (s : Status) : Denotes (.int s.code) s
  | name {s : Status} {text : String} {before letters after : List Char}
      (hbefore : ∀ c ∈ before, isBlank c = true) (hafter : ∀ c ∈ after, isBlank c = true)
      (hname : letters.map upperAscii = s.name.toList)
      (htext : text.toList = before ++ letters ++ after) : Denotes (.text text) s

/-- A code is that of a status exactly when the status has this code. -/
theorem ofCode?_eq_some_iff {n : Int} {s : Status} : ofCode? n = some s ↔ n = s.code := by
  unfold ofCode?
  constructor
  · intro h
    split at h
    · next hn => cases h; exact hn
    · split at h
      · next hn => cases h; exact hn
      · cases h
  · rintro rfl
    cases s <;> rfl

/-- A name, likewise. -/
theorem ofName?_eq_some_iff {name : List Char} {s : Status} :
    ofName? name = some s ↔ name = s.name.toList := by
  unfold ofName?
  constructor
  · intro h
    split at h
    · next hn => cases h; exact hn
    · split at h
      · next hn => cases h; exact hn
      · cases h
  · rintro rfl
    cases s <;> decide

theorem upperAscii_of_isBlank {c : Char} (h : isBlank c = true) : upperAscii c = c := by
  unfold upperAscii
  split
  · next hletter =>
    simp only [Bool.and_eq_true, decide_eq_true_eq, Char.le_def] at hletter
    have hlow : 97 ≤ c.toNat := UInt32.le_iff_toNat_le.mp hletter.1
    have hhigh : c.toNat ≤ 122 := UInt32.le_iff_toNat_le.mp hletter.2
    simp only [isBlank, isWhiteSpace, Bool.or_eq_true, Bool.and_eq_true, decide_eq_true_eq,
      beq_iff_eq] at h
    omega
  · rfl

/-- A name in letters of either case holds no blanks, so stripping finds it. -/
theorem strip_letters {s : Status} {letters : List Char}
    (h : letters.map upperAscii = s.name.toList) : strip letters = letters := by
  have hall : s.name.toList.all (fun c => !isBlank c) = true := by cases s <;> decide
  have hplain : ∀ c ∈ s.name.toList, isBlank c = false := by simpa using hall
  refine strip_eq_self fun c hc => ?_
  have hupper : upperAscii c ∈ s.name.toList := h ▸ List.mem_map_of_mem hc
  cases hb : isBlank c with
  | false => rfl
  | true =>
    rw [upperAscii_of_isBlank hb] at hupper
    exact absurd hb (by simp [hplain c hupper])

theorem ofValue?_eq_some_iff {v : Value} {s : Status} : ofValue? v = some s ↔ Denotes v s := by
  constructor
  · intro h
    cases v with
    | status t =>
      obtain rfl : t = s := Option.some.inj h
      exact .itself t
    | int n =>
      obtain rfl := ofCode?_eq_some_iff.mp h
      exact .number s
    | text t =>
      obtain ⟨before, after, hbefore, hafter, ht⟩ := exists_strip t.toList
      exact .name hbefore hafter (ofName?_eq_some_iff.mp h) ht
    | _ => cases h
  · intro h
    cases h with
    | itself => rfl
    | number => exact ofCode?_eq_some_iff.mpr rfl
    | name hbefore hafter hname htext =>
      have hstrip := strip_surrounded hbefore hafter
      rw [ofValue?, htext, hstrip, strip_letters hname, hname]
      exact ofName?_eq_some_iff.mpr rfl

theorem ofValue_eq_ok_iff {v : Value} {s : Status} : ofValue v = .ok s ↔ ofValue? v = some s := by
  unfold ofValue
  cases ofValue? v <;> simp

theorem ofValue_eq_error_iff {v : Value} {e : RenderError} :
    ofValue v = .error e ↔ ofValue? v = none ∧ refusal v = e := by
  unfold ofValue
  cases ofValue? v <;> simp

end Status

/-- A value stands for some verdict. -/
def Value.IsVerdict (v : Value) : Prop :=
  ∃ s, Status.Denotes v s

theorem Value.isVerdict_iff {v : Value} : v.IsVerdict ↔ (Status.ofValue? v).isSome = true := by
  rw [Option.isSome_iff_exists]
  exact exists_congr fun _ => Status.ofValue?_eq_some_iff.symm

/-- A value that stands for a verdict can be written. -/
theorem Value.IsVerdict.isWritable {v : Value} (h : v.IsVerdict) : v.isWritable = true := by
  obtain ⟨s, hs⟩ := h
  cases hs with
  | number => cases s <;> rfl
  | _ => rfl

instance (v : Value) : Decidable v.IsVerdict :=
  decidable_of_iff _ Value.isVerdict_iff.symm

end UptimeAlert
