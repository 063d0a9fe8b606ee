import UptimeAlert.Platform.Standard
import UptimeAlert.Proofs.Delivery.Webhook
import UptimeAlert.Proofs.Json.Limit
import UptimeAlert.Proofs.Text.Utf8

namespace UptimeAlert.Webhook

open UptimeAlert.Json UptimeAlert.Text

/-- ASCII bytes other than zero begin with no byte order mark. -/
theorem ofMark?_plain {bs : List UInt8} (h : ∀ b ∈ bs, b ≠ 0 ∧ b < 0x80) :
    Encoding.ofMark? bs = none := by
  unfold Encoding.ofMark?
  split
  · exact absurd rfl (h 0x00 List.mem_cons_self).1
  · exact absurd (h 0xFF List.mem_cons_self).2 (by decide)
  · exact absurd (h 0xFE List.mem_cons_self).2 (by decide)
  · exact absurd (h 0xFF List.mem_cons_self).2 (by decide)
  · exact absurd (h 0xEF List.mem_cons_self).2 (by decide)
  · rfl

theorem ofZeros_plain {bs : List UInt8} (h : ∀ b ∈ bs, b ≠ 0) : Encoding.ofZeros bs = .utf8 := by
  unfold Encoding.ofZeros
  split
  · exact absurd rfl (h 0 (by simp))
  · exact absurd rfl (h 0 (by simp))
  · exact absurd rfl (h 0 (by simp))
  · exact absurd rfl (h 0 (by simp))
  · rfl

/-- ASCII characters without the null character are told to be in UTF-8. -/
theorem detect_encode {cs : List Char} (h : ∀ c ∈ cs, 0 < c.toNat ∧ c.toNat < 128) :
    Encoding.detect (Utf8.encode cs) = (.utf8, Utf8.encode cs) := by
  have hbytes : ∀ b ∈ Utf8.encode cs, b ≠ 0 ∧ b < 0x80 := by
    rw [Utf8.encode_ascii fun c hc => (h c hc).2]
    intro b hb
    obtain ⟨c, hc, rfl⟩ := List.mem_map.mp hb
    have hbyte := Utf8.toNat_asciiByte (h c hc).2
    constructor
    · intro hzero
      rw [hzero] at hbyte
      exact absurd hbyte.symm (Nat.ne_of_gt (h c hc).1)
    · exact UInt8.lt_iff_toNat_lt.mpr (by rw [hbyte]; exact (h c hc).2)
  rw [Encoding.detect, ofMark?_plain hbytes, ofZeros_plain fun b hb => (hbytes b hb).1]
  rfl

theorem failureText?_eq {v : Value} (htruthy : v.isTruthy = true) (htext : ∀ s, v ≠ .text s)
    (reason : String) :
    failureText? reason v = (write? v).map fun cs => failureLead reason ++ String.ofList cs := by
  unfold failureText? shownPayload?
  rw [if_pos htruthy]
  cases v with
  | text s => exact absurd rfl (htext s)
  | _ => rfl

section

variable [Platform]

/-- A response with an ASCII text as its body is read as the value of that text. -/
theorem json?_encode {cs : List Char} (h : ∀ c ∈ cs, 0 < c.toNat ∧ c.toNat < 128) (status : Nat)
    {v : Value} (hread : read Platform.nesting cs = .ok v) :
    (Response.mk status (Utf8.encode cs)).json? = .ok (some v) := by
  rw [Response.json?, detect_encode h]
  simp only [Encoding.decode?, Utf8.decode_encode_ascii fun c hc => (h c hc).2]
  rw [Except.toOption, Option.map_some, hread]

/-- An ASCII text that carries a value: a response with the text as its body has the value as its
payload. -/
structure Carries (t : String) (v : Value) : Prop where
  ascii : ∀ c ∈ t.toList, c.toNat < 128
  payload (status : Nat) : (Response.mk status (Utf8.encode t.toList)).payload = .ok v

/-- The text of a value carries it: a body that is this text has the value as its payload. -/
theorem carries_write {v : Value} (hv : Portable IsShort v) (hdepth : v.depth ≤ Platform.nesting) :
    Carries (String.ofList (write v)) v := by
  have hplain : ∀ c ∈ write v, 0 < c.toNat ∧ c.toNat < 128 := by
    intro c hc
    obtain ⟨hlow, hhigh⟩ := hv.isPlain_write c hc
    have hlow : 32 ≤ c.toNat := UInt32.le_iff_toNat_le.mp hlow
    have hhigh : c.toNat ≤ 126 := UInt32.le_iff_toNat_le.mp hhigh
    omega
  constructor
  · rw [String.toList_ofList]
    exact fun c hc => (hplain c hc).2
  · intro status
    rw [String.toList_ofList, Response.payload,
      json?_encode hplain status (read_write hv hdepth)]
    rfl

/-- A payload that is no text has been read from the body. -/
theorem exists_read_of_payload {r : Response} {v : Value} (h : r.payload = .ok v)
    (htext : ∀ s, v ≠ .text s) : ∃ cs, read Platform.nesting cs = .ok v := by
  obtain ⟨found, hjson, rfl⟩ := map_eq_ok_iff.mp h
  cases found with
  | none => exact absurd rfl (htext r.text)
  | some v => exact Response.exists_read hjson

theorem outcome_of_rejects {w : Webhook} {transport : Call → Answer} {n : Notification} {c : Call}
    {r : Response} (hc : c ∈ (w.send transport n).calls) (ha : transport c = .response r)
    (hr : ¬ r.Accepts) {v : Value} (hv : r.payload = .ok v) {text : String}
    (htext : failureText? (refusalReason r) v = some text) :
    (w.send transport n).outcome = .ok ⟨channelName, .error ⟨.transport, text, v⟩⟩ := by
  rw [outcome_of_mem_calls hc, ha, conclude_of_payload hr hv, refused, htext]

/-- The description of a failure ends in a text that carries the payload exactly if the whole
numbers of the payload are short and its lists and records are not too deep. There is no description
with a number that is too long. The payloads of answers keep to both limits, so a refused
notification fails with a description that carries what the server answered. -/
theorem failureText_carries_iff {p : Int → Prop} {v : Value} (hv : Portable p v)
    (htruthy : v.isTruthy = true) (htext : ∀ s, v ≠ .text s) :
    ((∃ t, Carries t v ∧ ∀ reason, failureText? reason v = some ("Error: " ++ reason ++ " " ++ t)) ↔
        Portable IsShort v ∧ v.depth ≤ Platform.nesting) ∧
      (¬ Portable IsShort v → ∀ reason, failureText? reason v = none) ∧
      ∀ (w : Webhook) (transport : Call → Answer) (n : Notification) (c : Call) (r : Response),
        c ∈ (w.send transport n).calls → transport c = .response r → ¬ r.Accepts →
          r.payload = .ok v →
          ∃ t, Carries t v ∧ (w.send transport n).outcome = .ok ⟨channelName, .error ⟨.transport,
            "Error: " ++ ("Request failed with status code " ++ toString r.status) ++ " " ++ t,
            v⟩⟩ := by
  have hwritten (hshort : Portable IsShort v) (reason : String) :
      failureText? reason v = some ("Error: " ++ reason ++ " " ++ String.ofList (write v)) := by
    rw [failureText?_eq htruthy htext, write?, if_pos hshort.isWritable]
    rfl
  have hlimits {cs : List Char} (hread : read Platform.nesting cs = .ok v) :
      Portable IsShort v ∧ v.depth ≤ Platform.nesting :=
    (exists_read_iff hv).mp ⟨cs, hread⟩
  refine ⟨⟨?_, ?_⟩, fun hlong reason => ?_, ?_⟩
  · rintro ⟨t, ht, -⟩
    obtain ⟨cs, hread⟩ := exists_read_of_payload (ht.payload 500) htext
    exact hlimits hread
  · rintro ⟨hshort, hdepth⟩
    exact ⟨_, carries_write hshort hdepth, hwritten hshort⟩
  · rw [failureText?_eq htruthy htext, write?, if_neg (mt hv.isWritable_iff.mp hlong)]
    rfl
  · intro w transport n c r hc ha hr hpayload
    obtain ⟨cs, hread⟩ := exists_read_of_payload hpayload htext
    obtain ⟨hshort, hdepth⟩ := hlimits hread
    exact ⟨_, carries_write hshort hdepth,
      outcome_of_rejects hc ha hr hpayload (hwritten hshort (refusalReason r))⟩

end

/-- An answer with marks, control characters and characters beyond sixteen bits among its texts
comes back in the description, and so it does where a server refuses a notification with it. -/
theorem failureText_carries_nested :
    let v : Value := .record [("error \"\\", .list [.null, .bool false, .int (-10 ^ 30), .list [],
      .text "café 😀\n\x7f"]), ("", .record [])]
    let w : Webhook := ⟨"https://hooks.example.com/uptime", none, ⟨""⟩, .null⟩
    Portable IsShort v ∧ v.isTruthy = true ∧ (∀ s, v ≠ .text s) ∧
      ∃ t, Carries t v ∧
        (∀ reason, failureText? reason v = some ("Error: " ++ reason ++ " " ++ t)) ∧
        ∃ t', Carries t' v ∧
          (w.send (fun _ => .response ⟨503, Utf8.encode t.toList⟩) ⟨"m", none, none⟩).outcome =
            .ok ⟨channelName, .error ⟨.transport,
              "Error: " ++ ("Request failed with status code " ++ toString 503) ++ " " ++ t',
              v⟩⟩ := by
  intro v w
  have hint : IsShort (-10 ^ 30) := by decide +kernel
  have hv : Portable IsShort v := by
    refine .record (by simp) ?_
    simp only [List.forall_mem_cons, List.not_mem_nil, false_implies, implies_true, and_true]
    refine ⟨.list ?_, .record List.nodup_nil (List.forall_mem_nil _)⟩
    simp only [List.forall_mem_cons, List.not_mem_nil, false_implies, implies_true, and_true]
    exact ⟨.null, .bool false, .int hint, .list (List.forall_mem_nil _), .text _⟩
  have hdepth : v.depth ≤ Platform.nesting := by decide
  have htext : ∀ s, v ≠ .text s := nofun
  obtain ⟨hfailure, -, hsend⟩ := failureText_carries_iff hv rfl htext
  obtain ⟨t, ht, hreason⟩ := hfailure.mpr ⟨hv, hdepth⟩
  obtain ⟨c, hc⟩ : ∃ c, c ∈ (w.send (fun _ => .response ⟨503, Utf8.encode t.toList⟩)
    ⟨"m", none, none⟩).calls := ⟨_, List.mem_singleton_self _⟩
  have hrejects : ¬ (Response.mk 503 (Utf8.encode t.toList)).Accepts := fun haccepts =>
    absurd (show 503 ≤ 299 from haccepts.2) (by decide)
  exact ⟨hv, rfl, htext, t, ht, hreason,
    hsend w _ _ c ⟨503, _⟩ hc rfl hrejects (ht.payload 503)⟩

/-- A list of one whole number with a digit more than the limit has no text, and it is the payload
of no response. -/
theorem failureText_not_carries :
    let v : Value := .list [.int (10 ^ digitLimit)]
    v.isTruthy = true ∧ (∀ s, v ≠ .text s) ∧ (∀ reason, failureText? reason v = none) ∧
      ∀ r : Response, r.payload ≠ .ok v := by
  intro v
  have hlong : ¬ v.isWritable = true := by
    intro h
    have hshort : IsShort (10 ^ digitLimit) :=
      Value.isWritable_int_iff.mp (Value.isWritable_list_iff.mp h _ List.mem_cons_self)
    have hten : (10 : Int).natAbs = 10 := rfl
    rw [isShort_iff, Int.natAbs_pow, hten] at hshort
    exact Nat.lt_irrefl _ hshort
  have htext : ∀ s, v ≠ .text s := nofun
  refine ⟨rfl, htext, fun reason => ?_, fun r hr => hlong (Response.isWritable_of_payload hr)⟩
  rw [failureText?_eq rfl htext, write?, if_neg hlong]
  rfl

end UptimeAlert.Webhook
