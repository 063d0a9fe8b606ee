import Mathlib.Data.List.Basic
import UptimeAlert.Text.Utf8

namespace UptimeAlert.Text.Utf8

variable {cs : List Char}

/-- An ASCII text has a byte for each character. -/
theorem encode_ascii (h : ∀ c ∈ cs, c.toNat < 128) :
    encode cs = cs.map fun c => c.toNat.toUInt8 := by
  rw [encode, List.map_eq_flatMap]
  refine List.flatMap_congr fun c hc => ?_
  have hc' : c.val.toNat ≤ 0x7f := Nat.le_of_lt_succ (h c hc)
  simp only [String.utf8EncodeChar, if_pos hc']
  rfl

theorem toNat_asciiByte {c : Char} (h : c.toNat < 128) : c.toNat.toUInt8.toNat = c.toNat :=
  UInt8.toNat_ofNat_of_lt' (Nat.lt_trans h (by decide))

theorem head_asciiByte {c : Char} (h : c.toNat < 128) (bs : List UInt8) :
    head c.toNat.toUInt8 bs = .char c 1 := by
  have hlt : c.toNat.toUInt8 < 0x80 := UInt8.lt_iff_toNat_lt.mpr (by rwa [toNat_asciiByte h])
  rw [head.eq_def, if_pos hlt, toNat_asciiByte h, Char.ofNat_toNat]

/-- ASCII texts are one byte for each character, and are read back. -/
theorem decode_encode_ascii (h : ∀ c ∈ cs, c.toNat < 128) : decode (encode cs) = .ok cs := by
  have hfrom (position : Nat) :
      decodeFrom 0 position (cs.map fun c => c.toNat.toUInt8) = .ok cs := by
    induction cs generalizing position with
    | nil => rfl
    | cons c cs ih =>
      obtain ⟨hc, hcs⟩ := List.forall_mem_cons.mp h
      rw [List.map_cons, decodeFrom, head_asciiByte hc]
      simp only [Nat.sub_self, ih hcs]
      rfl
  rw [encode_ascii h, decode, hfrom]

end UptimeAlert.Text.Utf8
