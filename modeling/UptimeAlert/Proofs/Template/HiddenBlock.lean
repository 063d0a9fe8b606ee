import UptimeAlert.Platform.Standard
import UptimeAlert.Proofs.Template.Block
import UptimeAlert.Proofs.Template.Injection
import UptimeAlert.Proofs.Template.Localization

namespace UptimeAlert.Template

open UptimeAlert.Text

def blockText (s : Status) (before inside after : List Char) : List Char :=
  before ++ Block.opening s ++ inside ++ Block.closing s ++ after

namespace ZonedTime

theorem avoids_lead_opening (s : Status) (y : List Char) : Avoids lead (Block.opening s) y := by
  rw [Block.opening_eq]
  cases s <;> exact avoids_lead_placeholder (by decide) (by decide) y

theorem avoids_lead_closing (s : Status) (y : List Char) : Avoids lead (Block.closing s) y := by
  rw [Block.closing_eq]
  cases s <;> exact avoids_lead_placeholder (by decide) (by decide) y

variable {s : Status} {before inside after : List Char}

/-- A scan for zones passes over the inside of a block that holds no time placeholder. -/
theorem zoned_pieces_block (keep : List Char → Bool) (hinside : ¬ lead <:+: inside) :
    (zoned keep).pieces (blockText s before inside after) =
      (zoned keep).pieces (before ++ Block.opening s) ++
        ((inside ++ Block.closing s).map .literal ++ (zoned keep).pieces after) := by
  have hsplit : blockText s before inside after =
      (before ++ '{' :: '{' :: Block.openName s) ++ ['}', '}'] ++
        (inside ++ (Block.closing s ++ after)) := by
    simp [blockText, Block.opening_eq, placeholder]
  have hopening : before ++ Block.opening s =
      (before ++ '{' :: '{' :: Block.openName s) ++ ['}', '}'] := by
    simp [Block.opening_eq, placeholder]
  have havoid : Avoids lead inside (Block.closing s ++ after) := by
    rw [lead_eq] at hinside ⊢
    rw [Block.closing_eq]
    exact avoids_append_open (by decide) (by decide) hinside _
  rw [hsplit, pieces_append_close, ← hopening, zoned_pieces_literals keep havoid,
    zoned_pieces_literals keep (avoids_lead_closing s after)]
  simp

variable [Platform]

/-- The zones of a text with a block are those found up to its opening marker and those found after
it. -/
theorem isWritten_block (i : Instant) (hinside : ¬ lead <:+: inside) :
    isWritten i (blockText s before inside after) = fun zone =>
      isWritten i (before ++ Block.opening s) zone || isWritten i after zone := by
  funext zone
  have hmem : zone ∈ zonesIn (blockText s before inside after) ↔
      zone ∈ zonesIn (before ++ Block.opening s) ∨ zone ∈ zonesIn after := by
    simp [mem_zonesIn_iff, zoned_pieces_block _ hinside]
  rw [Bool.eq_iff_iff, Bool.or_eq_true, isWritten_iff, isWritten_iff, isWritten_iff, hmem]
  exact and_or_left

def writtenAround (i : Instant) (s : Status) (before after zone : List Char) : Bool :=
  isWritten i (before ++ Block.opening s) zone || isWritten i after zone

theorem isSome_of_writtenAround {i : Instant} {zone : List Char}
    (h : writtenAround i s before after zone = true) : (show? i zone).isSome := by
  rcases (Bool.or_eq_true _ _).mp h with hw | hw
  · exact isSome_of_isWritten hw
  · exact isSome_of_isWritten hw

/-- A text beside a block with its times written. -/
def localizeBeside (i : Instant) (s : Status) (before after text : List Char) : List Char :=
  assemble (stamp i) ((zoned (writtenAround i s before after)).pieces text)

/-- Time placeholders beside a block are replaced, and a block without any is left as it is. -/
theorem localize_block (i : Instant) (hinside : ¬ lead <:+: inside) :
    localize i (blockText s before inside after) =
      blockText s (localizeBeside i s before after before) inside
        (localizeBeside i s before after after) := by
  have hbraced : (zoned (writtenAround i s before after)).Braced :=
    zoned_braced fun _ hzone => braceFree_of_show? (isSome_of_writtenAround hzone)
  have hopening : Block.opening s = '{' :: '{' :: (Block.openName s ++ ['}', '}']) :=
    Block.opening_eq s
  have hbefore : (zoned (writtenAround i s before after)).pieces (before ++ Block.opening s) =
      (zoned (writtenAround i s before after)).pieces before ++
        (Block.opening s).map .literal := by
    have hliterals := zoned_pieces_literals (writtenAround i s before after)
      (avoids_lead_opening s [])
    rw [List.append_nil] at hliterals
    rw [hopening, hbraced.pieces_append_open, ← hopening, hliterals]
    simp
  have hwritten : isWritten i (blockText s before inside after) =
      writtenAround i s before after := isWritten_block i hinside
  rw [localize_eq, hwritten, zoned_pieces_block _ hinside, hbefore]
  simp [localizeBeside, blockText, -List.map_append]

/-- Times that are written in make no opening marker. -/
theorem opening_not_infix_localizeBeside (i : Instant) (h : ¬ Block.opening s <:+: before) :
    ¬ Block.opening s <:+: localizeBeside i s before after before := by
  have hblank : ' ' ∉ Block.openName s := by cases s <;> decide
  have hwrites : Writes (writtenAround i s before after) (stamp i) :=
    stamp_writes fun _ => isSome_of_writtenAround
  intro hin
  rw [Block.opening_eq] at h hin
  have hkeep (zone : List Char) (hzone : writtenAround i s before after zone = true) :
      BraceFree zone :=
    braceFree_of_show? (isSome_of_writtenAround hzone)
  have hsource := infix_source_of_written hwrites (Block.braceFree_openName s) hblank hkeep
    (Matcher.isScan_pieces _ _) hin
  rw [Matcher.source_pieces] at hsource
  exact h hsource

end ZonedTime

namespace Block

theorem remove_block {s : Status} {before inside : List Char} (hbefore : ¬ opening s <:+: before)
    (hinside : ¬ closing s <:+: inside) (after : List Char) :
    remove s (blockText s before inside after) = before ++ after := by
  rw [remove, blockText, changeFirst_block hbefore hinside, List.append_nil]

end Block

namespace Renderer

section

variable [Platform]

/-- The text before the block of the other verdict and the one after it, with their times written,
are all that is left to expand. -/
theorem expandHeartbeat_block {h : Heartbeat} {s : Status} (hs : Status.ofValue? h.status = some s)
    {before : List Char} (hbefore : ¬ Block.opening s.opposite <:+: before) (after : List Char) :
    ∃ left, ∀ inside, ¬ Block.closing s.opposite <:+: inside → ¬ ZonedTime.lead <:+: inside →
      expandHeartbeat (some h) (blockText s.opposite before inside after) =
        h.time.ifWritable (Block.unwrap s left) := by
  cases hi : Heartbeat.instantOf? h.time with
  | none =>
    refine ⟨before ++ after, fun inside hclosing _ => ?_⟩
    rw [expandHeartbeat_of_status hs, localizeTimes, hi, Block.resolve,
      Block.remove_block hbefore hclosing]
  | some i =>
    refine ⟨ZonedTime.localizeBeside i s.opposite before after before ++
      ZonedTime.localizeBeside i s.opposite before after after, fun inside hclosing hlead => ?_⟩
    rw [expandHeartbeat_of_status hs, localizeTimes, hi, Block.resolve]
    simp only
    rw [ZonedTime.localize_block i hlead,
      Block.remove_block (ZonedTime.opening_not_infix_localizeBeside i hbefore) hclosing]

/-- A rendering does not depend on what stands in the first block of the other verdict, if no time
placeholder begins there. -/
theorem render_hidden_block (r : Renderer) (monitor : Option Monitor) (h : Heartbeat) (s : Status)
    (before inside inside' after : List Char) (hs : Status.ofValue? h.status = some s)
    (hbefore : ¬ Block.opening s.opposite <:+: before)
    (hinside : ¬ Block.closing s.opposite <:+: inside ∧ ¬ ZonedTime.lead <:+: inside)
    (hinside' : ¬ Block.closing s.opposite <:+: inside' ∧ ¬ ZonedTime.lead <:+: inside') :
    r.render (String.ofList (blockText s.opposite before inside after)) monitor (some h) =
      r.render (String.ofList (blockText s.opposite before inside' after)) monitor (some h) := by
  obtain ⟨left, hleft⟩ := expandHeartbeat_block hs hbefore after
  unfold render
  rw [String.toList_ofList, String.toList_ofList, hleft inside hinside.1 hinside.2,
    hleft inside' hinside'.1 hinside'.2]

end

/-- A half-open time placeholder before the block and a second closing marker after it. -/
theorem render_hidden_block_half_open :
    let h : Heartbeat :=
      ⟨.text "2024-01-02 03:04:05", .text " down", .null, .null, .null, .null, .null⟩
    let before := ZonedTime.lead ++ ['{', '{']
    let after := '}' :: Block.closing .up ++ ZonedTime.timePlaceholder "UTC".toList
    (Renderer.mk "").render
        (String.ofList (blockText .up before (token "NAME").toList after)) none (some h) =
      (Renderer.mk "").render
        (String.ofList (blockText .up before (Block.opening .up) after)) none (some h) :=
  render_hidden_block ⟨""⟩ none _ .down _ _ _ _ rfl (by decide) ⟨by decide, by decide⟩
    ⟨by decide, by decide⟩

end Renderer

end UptimeAlert.Template
