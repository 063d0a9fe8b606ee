import UptimeAlert.Proofs.Template.ReplacementOrder

namespace UptimeAlert.Template.ZonedTime

open UptimeAlert.Text

variable {text zone : List Char} {keep : List Char → Bool}

/-- The first pieces of a scan end with the characters that their text ends with, if no brace is
among these to close a token. -/
theorem exists_literals {ps qs : List Piece} {x u : List Char}
    (hps : (zoned keep).IsScan (ps ++ qs)) (hu : '}' ∉ u) (heq : source ps = x ++ u) :
    ∃ front, ps = front ++ u.map .literal ∧ source front = x := by
  induction ps using List.reverseRecOn generalizing u qs with
  | nil =>
    obtain ⟨rfl, rfl⟩ := List.append_eq_nil_iff.mp heq.symm
    exact ⟨[], rfl, rfl⟩
  | append_singleton ps piece ih =>
    rcases List.eq_nil_or_concat u with rfl | ⟨u, c, rfl⟩
    · exact ⟨ps ++ [piece], by simp, by simpa using heq⟩
    · rw [source_append, List.concat_eq_append, ← List.append_assoc] at heq
      rw [List.concat_eq_append, List.mem_append, not_or] at hu
      cases piece with
      | literal d =>
        obtain ⟨hsource, hlast⟩ := List.append_inj' heq rfl
        obtain rfl : d = c := (List.cons.inj hlast).1
        rw [List.append_assoc] at hps
        obtain ⟨front, rfl, hfront⟩ := ih hps hu.1 hsource
        exact ⟨front, by simp, hfront⟩
      | token t =>
        have ht : .token t ∈ ps ++ [.token t] ++ qs := by simp
        obtain ⟨w, -, rfl⟩ := zone_of_token hps ht
        have hlast : source ps ++ lead ++ w ++ ['}'] ++ ['}'] = x ++ u ++ [c] := by
          simpa [source, timePlaceholder] using heq
        obtain ⟨-, hc⟩ := List.append_inj' hlast rfl
        exact absurd (by simpa using hc) hu.2

/-- A scan does not find a placeholder that a longer one, with something before it, ends with. -/
theorem front_eq_nil_of_isScan {seen rest : List Piece} {w x u : List Char}
    (hscan : (zoned fun _ => true).IsScan (seen ++ .token (timePlaceholder zone) :: rest))
    (hw : w ≠ [] ∧ '}' ∉ w) (hmatch : timePlaceholder w = u ++ timePlaceholder zone)
    (hseen : source seen = x ++ u) : u = [] := by
  obtain ⟨front, rfl, -⟩ := exists_literals hscan (not_mem_front hw.2 hmatch) hseen
  rw [List.append_assoc] at hscan
  have hpre : timePlaceholder w <+:
      source (u.map .literal ++ .token (timePlaceholder zone) :: rest) := by
    refine ⟨source rest, ?_⟩
    rw [source_append, source_literals, source_token, hmatch, List.append_assoc]
  obtain ⟨others, hothers⟩ :=
    exists_token_of_prefix (Matcher.isScan_of_append _ hscan) rfl hw.1 hw.2 hpre
  cases u with
  | nil => rfl
  | cons c u => cases hothers

theorem split_of_mem_zonesIn (h : zone ∈ zonesIn text) :
    ∃ seen rest, (zoned fun _ => true).pieces text = seen ++ .token (timePlaceholder zone) :: rest ∧
      text = source seen ++ timePlaceholder zone ++ source rest := by
  obtain ⟨seen, rest, hseen⟩ := List.append_of_mem (mem_zonesIn_iff.mp h)
  refine ⟨seen, rest, hseen, ?_⟩
  calc text = source ((zoned fun _ => true).pieces text) :=
        ((zoned fun _ => true).source_pieces text).symm
    _ = source seen ++ timePlaceholder zone ++ source rest := by
        rw [hseen, source_append, source_token, List.append_assoc]

variable [Platform] {i : Instant} {time : List Char}

/-- A zone that was found and can be shown is named no more. -/
theorem not_infix_localize (hfound : zone ∈ zonesIn text) (hshow : show? i zone = some time) :
    ¬ timePlaceholder zone <:+: localize i text := by
  have hkeep : ∀ w, isWritten i text w = true → (show? i w).isSome := fun _ => isSome_of_isWritten
  rw [localize_eq]
  refine not_infix_of_written hkeep (stamp_writes hkeep)
    ((zoned (isWritten i text)).isScan_pieces text) (isWritten_iff.mpr ⟨by simp [hshow], hfound⟩) ?_
  rw [stamp_of_show? hshow]
  exact time_ne_timePlaceholder hshow zone

/-- A placeholder that a scan finds in a localized text was a match before: one that was hidden in a
longer match still is. -/
theorem mem_zonesIn_of_mem_localize (hshow : show? i zone = some time)
    (h : zone ∈ zonesIn (localize i text)) : zone ∈ zonesIn text := by
  have hscan := (zoned (isWritten i text)).isScan_pieces text
  have hkeep : ∀ w, isWritten i text w = true → (show? i w).isSome := fun _ => isSome_of_isWritten
  obtain ⟨hne, hplain, -⟩ := zone_of_show? hshow
  obtain ⟨seen, rest, hseen, hwritten⟩ := split_of_mem_zonesIn h
  have hseenScan := (zoned fun _ => true).isScan_pieces (localize i text)
  -- where it stands now it stood in the text, and there it was the end of a match
  rw [localize_eq] at hwritten
  obtain ⟨front, back, hsplit, hfront, -, after, hafter⟩ :=
    split_written_of_show? hkeep (stamp_writes hkeep) hscan hshow hwritten
  have htext : source ((zoned fun _ => true).pieces text) =
      source front ++ timePlaceholder zone ++ after := by
    rw [(zoned fun _ => true).source_pieces, ← (zoned (isWritten i text)).source_pieces text,
      hsplit, source_append, List.append_assoc, hafter]
  obtain ⟨found, others, w, u, hmatch, hbefore, hw, hu, -⟩ :=
    exists_match ((zoned fun _ => true).isScan_pieces text) hne hplain.2 htext
  have hfound : w ∈ zonesIn text := mem_zonesIn_iff.mpr (by simp [hmatch])
  -- what that match begins with is not touched, so the match is still there
  obtain ⟨front, rfl, -⟩ := exists_literals (hsplit ▸ hscan) hu hbefore
  rw [assemble_append, assemble_literals] at hfront
  rw [hseen] at hseenScan
  obtain rfl := front_eq_nil_of_isScan hseenScan (zone_of_mem_zonesIn hfound) hw hfront.symm
  rwa [timePlaceholder_inj hw] at hfound

/-- A zone that is found in a localized text cannot be shown. -/
theorem show?_eq_none_of_mem_localize (h : zone ∈ zonesIn (localize i text)) :
    show? i zone = none := by
  rw [Option.eq_none_iff_forall_ne_some]
  intro time hshow
  obtain ⟨seen, rest, -, htext⟩ := split_of_mem_zonesIn h
  exact not_infix_localize (mem_zonesIn_of_mem_localize hshow h) hshow
    ⟨source seen, source rest, htext.symm⟩

theorem foldl_replaceZone_of_none {zones : List (List Char)}
    (h : ∀ zone ∈ zones, show? i zone = none) (text : List Char) :
    zones.foldl (replaceZone i) text = text := by
  induction zones with
  | nil => rfl
  | cons zone zones ih =>
    have hzone : replaceZone i text zone = text := by
      simp only [replaceZone, h zone List.mem_cons_self]
    rw [List.foldl_cons, hzone]
    exact ih fun w hw => h w (List.mem_cons_of_mem zone hw)

/-- Localizing a second time changes nothing. -/
theorem localize_localize (i : Instant) (text : List Char) :
    localize i (localize i text) = localize i text := by
  rw [localize]
  exact foldl_replaceZone_of_none (fun _ => show?_eq_none_of_mem_localize) _

end UptimeAlert.Template.ZonedTime
