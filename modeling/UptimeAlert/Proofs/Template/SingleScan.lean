import UptimeAlert.Platform.Standard
import UptimeAlert.Proofs.Template.Localization

namespace UptimeAlert.Template.ZonedTime

open UptimeAlert.Text

/-- A scan for some zones is one of each match of the scan for all zones. -/
theorem assemble_pieces_source (keep : List Char → Bool) (f : List Char → List Char)
    {ps : List Piece} (hps : (zoned fun _ => true).IsScan ps) :
    assemble f ((zoned keep).pieces (source ps)) =
      assemble (fun t => assemble f ((zoned keep).pieces t)) ps := by
  induction ps with
  | nil => rfl
  | cons piece ps ih =>
    have hrest := ih (Matcher.isScan_of_cons _ hps)
    cases piece with
    | literal c =>
      have hkeep : (zoned keep).at? (c :: source ps) = none := zoned_at?_eq_none hps.1
      change assemble f ((zoned keep).pieces (c :: source ps)) = _
      rw [Matcher.pieces_literal _ hkeep, assemble_literal, assemble_literal, hrest]
    | token t =>
      obtain ⟨w, -, -, -, rfl, -⟩ := zoned_at?_eq_some_iff.mp hps.1
      change assemble f ((zoned keep).pieces (timePlaceholder w ++ source ps)) = _
      rw [timePlaceholder, pieces_append_close, assemble_append, assemble_token, hrest]

section

variable [Platform]

/-- Puts times for the matches of one scan from the left; a match whose zone cannot be shown stays,
and so does all between matches. -/
def scanTimes (i : Instant) (text : List Char) : List Char :=
  assemble (stamp i) ((zoned fun _ => true).pieces text)

/-- What the replacement loop puts for a match, given the zones that were found in the text. -/
inductive StandsFor (i : Instant) (zones : List (List Char)) : List Char → List Char → Prop where
  | time {zone time : List Char} (shown : show? i zone = some time) :
    StandsFor i zones (timePlaceholder zone) time
  | ending {zone front inner time : List Char} (hidden : show? i zone = none)
    (split : timePlaceholder zone = front ++ timePlaceholder inner) (found : inner ∈ zones)
    (shown : show? i inner = some time) :
    StandsFor i zones (timePlaceholder zone) (front ++ time)
  | kept {zone : List Char} (hidden : show? i zone = none)
    (free : ∀ inner ∈ zones, (show? i inner).isSome →
      ¬ timePlaceholder inner <:+ timePlaceholder zone) :
    StandsFor i zones (timePlaceholder zone) (timePlaceholder zone)

variable {i : Instant} {text zone inner time front : List Char}

theorem stamp_of_none (hzone : zone ≠ [] ∧ '}' ∉ zone) (h : show? i zone = none) :
    stamp i (timePlaceholder zone) = timePlaceholder zone := by
  simp [stamp, zoneAt?_timePlaceholder hzone.1 hzone.2, h]

/-- The replacement loop, run on one match with the zones of the whole text. -/
def rewritten (i : Instant) (text token : List Char) : List Char :=
  assemble (stamp i) ((zoned (isWritten i text)).pieces token)

theorem localize_eq_rewritten (i : Instant) (text : List Char) :
    localize i text = assemble (rewritten i text) ((zoned fun _ => true).pieces text) := by
  have hscan := (zoned fun _ => true).isScan_pieces text
  have hmatches := assemble_pieces_source (isWritten i text) (stamp i) hscan
  rw [(zoned fun _ => true).source_pieces text] at hmatches
  rw [localize_eq, hmatches]
  rfl

theorem rewritten_of_shown (hzone : zone ∈ zonesIn text) (h : show? i zone = some time) :
    rewritten i text (timePlaceholder zone) = time := by
  have hkeep : isWritten i text zone = true := isWritten_iff.mpr ⟨by simp [h], hzone⟩
  obtain ⟨hne, hclose⟩ := zone_of_mem_zonesIn hzone
  have hhit := zoned_at?_timePlaceholder hkeep hne hclose []
  have hpieces := (zoned (isWritten i text)).pieces_token hhit
  rw [List.append_nil] at hpieces
  rw [rewritten, hpieces, Matcher.pieces_nil, assemble_token, stamp_of_show? h]
  exact List.append_nil _

/-- A placeholder that ends with another one is rewritten by that one, not by its own zone. -/
theorem rewritten_of_ending (hzone : zone ∈ zonesIn text) (hinner : inner ∈ zonesIn text)
    (hsplit : timePlaceholder zone = front ++ timePlaceholder inner)
    (h : show? i inner = some time) :
    rewritten i text (timePlaceholder zone) = front ++ time := by
  have hfront : '}' ∉ front := not_mem_front (zone_of_mem_zonesIn hzone).2 hsplit
  have hbraced : (zoned (isWritten i text)).Braced :=
    zoned_braced fun w hw => braceFree_of_show? (isSome_of_isWritten hw)
  have hliterals : (zoned (isWritten i text)).pieces (front ++ timePlaceholder inner) =
      front.map .literal ++ (zoned (isWritten i text)).pieces (timePlaceholder inner) := by
    apply Matcher.pieces_literals
    intro s hs hsne
    -- what is found from here on would end before the placeholder, but no brace closes it there
    have hown : (zoned (isWritten i text)).at? (s ++ placeholder (timeName inner)) =
        (zoned (isWritten i text)).at? s := hbraced.at?_append_open hsne _
    rw [timePlaceholder_eq, hown, Option.eq_none_iff_forall_ne_some]
    intro t ht
    obtain ⟨w, -, -, -, rfl, hpre⟩ := zoned_at?_eq_some_iff.mp ht
    exact hfront (hs.subset (hpre.subset (by simp [timePlaceholder])))
  have hinnerText := rewritten_of_shown hinner h
  rw [rewritten] at hinnerText ⊢
  rw [hsplit, hliterals, assemble_append, assemble_literals, hinnerText]

/-- A placeholder that no known one ends, itself included, stays as it is. -/
theorem rewritten_of_free (hzone : zone ∈ zonesIn text)
    (hfree : ∀ inner ∈ zonesIn text, (show? i inner).isSome →
      ¬ timePlaceholder inner <:+ timePlaceholder zone) :
    rewritten i text (timePlaceholder zone) = timePlaceholder zone := by
  have hliterals : (zoned (isWritten i text)).pieces (timePlaceholder zone ++ []) =
      (timePlaceholder zone).map .literal ++ (zoned (isWritten i text)).pieces [] := by
    apply Matcher.pieces_literals
    rintro s ⟨before, hs⟩ hsne
    rw [Option.eq_none_iff_forall_ne_some]
    intro t ht
    obtain ⟨w, hw, hne, hclose, rfl, after, hafter⟩ := zoned_at?_eq_some_iff.mp ht
    obtain ⟨hsome, hfound⟩ := isWritten_iff.mp hw
    obtain ⟨rfl, -⟩ := ends_with_match (zone_of_mem_zonesIn hzone).2 hne hclose hsne hs.symm hafter
    exact hfree w hfound hsome ⟨before, hs⟩
  rw [List.append_nil] at hliterals
  rw [rewritten, hliterals, Matcher.pieces_nil, List.append_nil, assemble_literals]

theorem standsFor_rewritten (hzone : zone ∈ zonesIn text) :
    StandsFor i (zonesIn text) (timePlaceholder zone)
      (rewritten i text (timePlaceholder zone)) := by
  cases hidden : show? i zone with
  | some time =>
    rw [rewritten_of_shown hzone hidden]
    exact .time hidden
  | none =>
    by_cases hfree : ∀ inner ∈ zonesIn text, (show? i inner).isSome →
        ¬ timePlaceholder inner <:+ timePlaceholder zone
    · rw [rewritten_of_free hzone hfree]
      exact .kept hidden hfree
    · push Not at hfree
      obtain ⟨inner, hinner, hsome, front, hfront⟩ := hfree
      obtain ⟨time, htime⟩ := Option.isSome_iff_exists.mp hsome
      rw [rewritten_of_ending hzone hinner hfront.symm htime]
      exact .ending hidden hfront.symm hinner htime

/-- Where only the loop changes a match, its text and that of the scan differ beyond doubt: neither
begins with the other. -/
theorem not_prefix_of_ending (hzone : zone ∈ zonesIn text) (hidden : show? i zone = none)
    (hinner : inner ∈ zonesIn text) (hsome : (show? i inner).isSome)
    (hend : timePlaceholder inner <:+ timePlaceholder zone) :
    ¬ rewritten i text (timePlaceholder zone) <+: stamp i (timePlaceholder zone) ∧
      ¬ stamp i (timePlaceholder zone) <+: rewritten i text (timePlaceholder zone) := by
  obtain ⟨front, hfront⟩ := hend
  obtain ⟨time, htime⟩ := Option.isSome_iff_exists.mp hsome
  obtain ⟨hplain, hblank⟩ := time_of_show? htime
  rw [rewritten_of_ending hzone hinner hfront.symm htime,
    stamp_of_none (zone_of_mem_zonesIn hzone) hidden, ← hfront, List.prefix_append_right_inj,
    List.prefix_append_right_inj]
  obtain ⟨c, cs, rfl⟩ := List.exists_cons_of_ne_nil (List.ne_nil_of_mem hblank)
  have hc : '{' ≠ c := fun h => hplain.1 (h ▸ List.mem_cons_self)
  rw [timePlaceholder_eq, placeholder, List.cons_append, List.cons_prefix_cons,
    List.cons_prefix_cons]
  exact ⟨fun h => hc h.1.symm, fun h => hc h.1⟩

theorem rewritten_eq_stamp (hzone : zone ∈ zonesIn text)
    (hfree : show? i zone = none → ∀ inner ∈ zonesIn text, (show? i inner).isSome →
      ¬ timePlaceholder inner <:+ timePlaceholder zone) :
    rewritten i text (timePlaceholder zone) = stamp i (timePlaceholder zone) := by
  cases hidden : show? i zone with
  | some time => rw [rewritten_of_shown hzone hidden, stamp_of_show? hidden]
  | none =>
    rw [rewritten_of_free hzone (hfree hidden), stamp_of_none (zone_of_mem_zonesIn hzone) hidden]

/-- The replacement loop puts times for matches, and in a match whose zone cannot be shown for its
ending where that is the placeholder of another zone of the text that can. So it is a single scan
exactly where no match has such an ending. -/
theorem localize_eq_scanTimes_iff (i : Instant) (text : List Char) :
    (∃ value, localize i text = assemble value ((zoned fun _ => true).pieces text) ∧
      ∀ zone ∈ zonesIn text,
        StandsFor i (zonesIn text) (timePlaceholder zone) (value (timePlaceholder zone))) ∧
    (localize i text = scanTimes i text ↔
      ∀ zone ∈ zonesIn text, show? i zone = none → ∀ inner ∈ zonesIn text,
        (show? i inner).isSome → ¬ timePlaceholder inner <:+ timePlaceholder zone) := by
  refine ⟨⟨_, localize_eq_rewritten i text, fun _ => standsFor_rewritten⟩, ?_⟩
  have hscan := (zoned fun _ => true).isScan_pieces text
  rw [localize_eq_rewritten, scanTimes, assemble_eq_iff]
  · constructor
    · intro heq zone hzone hidden inner hinner hsome hend
      have hne := (not_prefix_of_ending hzone hidden hinner hsome hend).1
      rw [heq _ (mem_zonesIn_iff.mp hzone)] at hne
      exact hne List.prefix_rfl
    · intro hfree t ht
      obtain ⟨zone, -, rfl⟩ := zone_of_token hscan ht
      have hzone := mem_zonesIn_iff.mpr ht
      exact rewritten_eq_stamp hzone (hfree zone hzone)
  · intro t ht
    obtain ⟨zone, -, rfl⟩ := zone_of_token hscan ht
    have hzone := mem_zonesIn_iff.mpr ht
    by_cases hfree : show? i zone = none → ∀ inner ∈ zonesIn text, (show? i inner).isSome →
        ¬ timePlaceholder inner <:+ timePlaceholder zone
    · exact .inl (rewritten_eq_stamp hzone hfree)
    · push Not at hfree
      obtain ⟨hidden, inner, hinner, hsome, hend⟩ := hfree
      exact .inr (not_prefix_of_ending hzone hidden hinner hsome hend)

end

/-- The loop breaks a placeholder of an unknown zone where a known one is named elsewhere. -/
theorem localize_ne_scanTimes :
    let i : Instant := ⟨738885 * dayMicros, by decide⟩
    let text := "\x7b\x7bTIME:UTC\x7d\x7d \x7b\x7bTIME:\x7b\x7bTIME:UTC\x7d\x7d".toList
    localize i text ≠ scanTimes i text ∧
      localize i text = "2024-01-01 00:00:00.000 \x7b\x7bTIME:2024-01-01 00:00:00.000".toList ∧
      scanTimes i text =
        "2024-01-01 00:00:00.000 \x7b\x7bTIME:\x7b\x7bTIME:UTC\x7d\x7d".toList := by
  decide +kernel

end UptimeAlert.Template.ZonedTime
