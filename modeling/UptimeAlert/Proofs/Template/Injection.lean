import UptimeAlert.Platform.Standard
import UptimeAlert.Proofs.Template.Dictionary
import UptimeAlert.Template.Renderer

namespace UptimeAlert.Template.Renderer

open UptimeAlert.Text

/-- What a rendering reads of a heartbeat before it puts values. -/
def reads (h : Heartbeat) : Option Status × Option Instant :=
  (Status.ofValue? h.status, Heartbeat.instantOf? h.time)

theorem substitute_eq_assemble {m : Option Monitor} {h : Option Heartbeat} {d : Dictionary}
    (hd : Dictionary.build m h = .ok d) (missing text : List Char) :
    d.substitute missing text =
      assemble (d.valueText missing) ((Matcher.ofTokens d.tokens).pieces text) :=
  Dictionary.substitute_eq_pieces (Dictionary.tokens_build hd).nil_not_mem missing text

section

variable [Platform]

/-- With a verdict times are written first, then blocks are resolved. -/
theorem expandHeartbeat_of_status {h : Heartbeat} {s : Status}
    (hs : Status.ofValue? h.status = some s) (text : List Char) :
    expandHeartbeat (some h) text =
      h.time.ifWritable (Block.resolve s (localizeTimes h text)) := by
  rw [expandHeartbeat, Status.ofValue_eq_ok_iff.mpr hs]
  rfl

/-- The heartbeat expands a template when its status has a verdict and its time can be written. -/
theorem expandHeartbeat_eq_ok_iff {h : Heartbeat} {text out : List Char} :
    expandHeartbeat (some h) text = .ok out ↔ ∃ s, Status.ofValue? h.status = some s ∧
      h.time.isWritable = true ∧ Block.resolve s (localizeTimes h text) = out := by
  constructor
  · intro hrun
    obtain ⟨s, hs, hrun⟩ := exists_of_bind_eq_ok hrun
    exact ⟨s, Status.ofValue_eq_ok_iff.mp hs, Value.ifWritable_eq_ok_iff.mp hrun⟩
  · rintro ⟨s, hs, hwritten⟩
    rw [expandHeartbeat_of_status hs]
    exact Value.ifWritable_eq_ok_iff.mpr hwritten

/-- Two heartbeats with one verdict and one time expand a template alike. -/
theorem expandHeartbeat_congr {h₁ h₂ : Option Heartbeat} (hh : h₁.map reads = h₂.map reads)
    {text out₁ out₂ : List Char} (hrun₁ : expandHeartbeat h₁ text = .ok out₁)
    (hrun₂ : expandHeartbeat h₂ text = .ok out₂) : out₁ = out₂ := by
  cases h₁ with
  | none =>
    cases h₂ with
    | none => exact Except.ok.inj (hrun₁.symm.trans hrun₂)
    | some h₂ => cases hh
  | some h₁ =>
    cases h₂ with
    | none => cases hh
    | some h₂ =>
      obtain ⟨hstatus, hinstant⟩ := Prod.mk.inj (Option.some.inj hh)
      obtain ⟨s₁, hs₁, -, rfl⟩ := expandHeartbeat_eq_ok_iff.mp hrun₁
      obtain ⟨s₂, hs₂, -, rfl⟩ := expandHeartbeat_eq_ok_iff.mp hrun₂
      obtain rfl : s₁ = s₂ := Option.some.inj (hs₁.symm.trans (hstatus.trans hs₂))
      rw [localizeTimes, localizeTimes, hinstant]

/-- A rendering that succeeds expands the template, builds a dictionary and puts its values, all of
which can be written. -/
theorem render_eq_ok_iff {r : Renderer} {template : String} {m : Option Monitor}
    {h : Option Heartbeat} {out : String} :
    r.render template m h = .ok out ↔
      ∃ text d, expandHeartbeat h template.toList = .ok text ∧ Dictionary.build m h = .ok d ∧
        PartsWritable m h ∧ out = String.ofList (d.substitute r.missing.toList text) := by
  constructor
  · intro hrun
    obtain ⟨text, htext, hrun⟩ := exists_of_bind_eq_ok hrun
    obtain ⟨d, hd, hrun⟩ := exists_of_bind_eq_ok hrun
    obtain ⟨rendered, hrendered, hrun⟩ := exists_of_bind_eq_ok hrun
    obtain ⟨hwritable, rfl⟩ := Value.ifWritable_eq_ok_iff.mp hrendered
    exact ⟨text, d, htext, hd, (Dictionary.isWritable_build_iff hd).mp hwritable,
      (Except.ok.inj hrun).symm⟩
  · rintro ⟨text, d, htext, hd, hparts, rfl⟩
    have hwritable := (Dictionary.isWritable_build_iff hd).mpr hparts
    rw [render, htext]
    simp only [bind, Except.bind, hd, Dictionary.substitute?,
      Value.ifWritable_of_isWritable hwritable]
    rfl

/-- Two runs on one template that agree on what there is, on the verdict and on the instant put
their values into the same places of one text, and show all else of it as it is. -/
theorem render_shares_pieces (r₁ r₂ : Renderer) (template : String) (m₁ m₂ : Option Monitor)
    (h₁ h₂ : Option Heartbeat) (out₁ out₂ : String) (hm : m₁.isSome = m₂.isSome)
    (hh : h₁.map reads = h₂.map reads) (hrun₁ : r₁.render template m₁ h₁ = .ok out₁)
    (hrun₂ : r₂.render template m₂ h₂ = .ok out₂) :
    ∃ (pieces : List Piece) (d₁ d₂ : Dictionary),
      Dictionary.build m₁ h₁ = .ok d₁ ∧ Dictionary.build m₂ h₂ = .ok d₂ ∧
      expandHeartbeat h₁ template.toList = .ok (source pieces) ∧
      expandHeartbeat h₂ template.toList = .ok (source pieces) ∧
      (∀ t, .token t ∈ pieces → t ∈ d₁.tokens ∧ t ∈ d₂.tokens) ∧
      out₁.toList = assemble (d₁.valueText r₁.missing.toList) pieces ∧
      out₂.toList = assemble (d₂.valueText r₂.missing.toList) pieces := by
  obtain ⟨text, d₁, htext₁, hd₁, -, rfl⟩ := render_eq_ok_iff.mp hrun₁
  obtain ⟨text₂, d₂, htext₂, hd₂, -, rfl⟩ := render_eq_ok_iff.mp hrun₂
  obtain rfl : text = text₂ := expandHeartbeat_congr hh htext₁ htext₂
  have hhas : h₁.isSome = h₂.isSome := by simpa using congrArg Option.isSome hh
  have htokens : d₁.tokens = d₂.tokens := by
    rw [Dictionary.tokens_eq_map_keys, Dictionary.tokens_eq_map_keys, Dictionary.keys_build hd₁,
      Dictionary.keys_build hd₂, hm, hhas]
  have hsource := (Matcher.ofTokens d₁.tokens).source_pieces text
  have hscan := (Matcher.ofTokens d₁.tokens).isScan_pieces text
  refine ⟨(Matcher.ofTokens d₁.tokens).pieces text, d₁, d₂, hd₁, hd₂, by rwa [hsource],
    by rwa [hsource], fun t ht => ?_, ?_, ?_⟩
  · obtain ⟨cs, hcs⟩ := Matcher.exists_at?_of_mem _ hscan ht
    have hmem := (longestAt?_eq_some hcs).1
    exact ⟨hmem, htokens ▸ hmem⟩
  · rw [String.toList_ofList, substitute_eq_assemble hd₁]
  · rw [String.toList_ofList, substitute_eq_assemble hd₂, htokens]

end

/-- Values that look like tokens, blocks and times are put as they are. -/
theorem render_shares_pieces_markup :
    let template := String.ofList
      (Block.opening .up ++ (token "NAME").toList ++ Block.closing .up ++ (token "PING").toList)
    let m₁ : Monitor := ⟨.null, .text (token "PING"), .text "http", .null, .null, .null, .null⟩
    let m₂ : Monitor := ⟨.int 7, .text "\\1.*", .null, .null, .null, .null, .null⟩
    let h₁ : Heartbeat := ⟨.null, .int 1, .null, .null, .null, .null, .null⟩
    let h₂ : Heartbeat :=
      ⟨.bool false, .text " up", .null, .null, .text (token "NAME"), .null, .null⟩
    ∃ (pieces : List Piece) (d₁ d₂ : Dictionary),
      Dictionary.build (some m₁) (some h₁) = .ok d₁ ∧
      Dictionary.build (some m₂) (some h₂) = .ok d₂ ∧
      expandHeartbeat (some h₁) template.toList = .ok (source pieces) ∧
      expandHeartbeat (some h₂) template.toList = .ok (source pieces) ∧
      (∀ t, .token t ∈ pieces → t ∈ d₁.tokens ∧ t ∈ d₂.tokens) ∧
      (token "PING" ++ token "IF_UP").toList =
        assemble (d₁.valueText (token "IF_UP").toList) pieces ∧
      ("\\1.*" ++ token "NAME").toList = assemble (d₂.valueText []) pieces :=
  render_shares_pieces ⟨token "IF_UP"⟩ ⟨""⟩ _ _ _ _ _ _ _ rfl rfl rfl rfl

end UptimeAlert.Template.Renderer
