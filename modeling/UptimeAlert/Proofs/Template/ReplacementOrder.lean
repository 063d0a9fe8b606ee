import UptimeAlert.Platform.Standard
import UptimeAlert.Proofs.Template.Localization

namespace UptimeAlert.Template.ZonedTime

open UptimeAlert.Text

/-- A text occurs in what is written for pieces where it is a token of theirs, and only there. -/
def OccursAsToken (v : List Char → List Char) (ps : List Piece) (p : List Char) : Prop :=
  ∀ before after, assemble v ps = before ++ p ++ after ↔
    ∃ front back, ps = front ++ .token p :: back ∧ assemble v front = before ∧
      assemble v back = after

/-- Occurrences of two placeholders do not overlap in the text. -/
theorem occurs_apart {zone other before after before' after' : List Char} {ps : List Piece}
    (hzone : OccursAsToken id ps (timePlaceholder zone))
    (hother : OccursAsToken id ps (timePlaceholder other))
    (heq : source ps = before ++ timePlaceholder zone ++ after)
    (heq' : source ps = before' ++ timePlaceholder other ++ after') :
    before = before' ∧ zone = other ∨ before ++ timePlaceholder zone <+: before' ∨
      before' ++ timePlaceholder other <+: before := by
  obtain ⟨front, back, hsplit, rfl, -⟩ := (hzone before after).mp heq
  obtain ⟨front', back', hsplit', rfl, -⟩ := (hother before' after').mp heq'
  rcases tokens_apart (hsplit.symm.trans hsplit') with ⟨hfront, htoken⟩ | hapart
  · exact .inl ⟨hfront, timePlaceholder_inj htoken⟩
  · exact .inr hapart

section

variable [Platform]

/-- The loop over zones in some order writes times for tokens of one cut of the text, which are the
placeholders of the zones that can be shown, wherever they stand. After each step of the loop those
of the zones that are left stand where they stood, and those of the others stand nowhere. -/
structure ReplacesTokens (i : Instant) (text : List Char) (order : List (List Char))
    (ps : List Piece) : Prop where
  source_eq : source ps = text
  shown : ∀ t, .token t ∈ ps →
    ∃ zone ∈ zonesIn text, (show? i zone).isSome ∧ t = timePlaceholder zone
  occurs : ∀ zone ∈ zonesIn text, (show? i zone).isSome → OccursAsToken id ps (timePlaceholder zone)
  step_eq : ∀ done todo, order = done ++ todo →
    done.foldl (replaceZone i) text = assemble (stampAmong done i) ps
  standing : ∀ done todo, order = done ++ todo → ∀ zone ∈ zonesIn text, (show? i zone).isSome →
    zone ∉ done → OccursAsToken (stampAmong done i) ps (timePlaceholder zone)
  gone : ∀ done todo, order = done ++ todo → ∀ zone ∈ done, (show? i zone).isSome →
    ¬ timePlaceholder zone <:+: assemble (stampAmong done i) ps
  apart : ∀ zone ∈ zonesIn text, ∀ other ∈ zonesIn text, (show? i zone).isSome →
    (show? i other).isSome → ∀ before after before' after',
      text = before ++ timePlaceholder zone ++ after →
      text = before' ++ timePlaceholder other ++ after' →
      before = before' ∧ zone = other ∨ before ++ timePlaceholder zone <+: before' ∨
        before' ++ timePlaceholder other <+: before

variable {i : Instant} {text zone : List Char} {keep : List Char → Bool}
  {v : List Char → List Char} {ps : List Piece} {before after : List Char}
  {order : List (List Char)}

/-- A time placeholder that stands in a written text stands at a token of its zone. -/
theorem exists_token_of_written (hkeep : ∀ zone, keep zone = true → (show? i zone).isSome)
    (hv : Writes keep v) (hps : (zoned keep).IsScan ps) (hzone : keep zone = true)
    (heq : assemble v ps = before ++ timePlaceholder zone ++ after) :
    ∃ front back, ps = front ++ .token (timePlaceholder zone) :: back ∧ assemble v front = before ∧
      v (timePlaceholder zone) ++ assemble v back = timePlaceholder zone ++ after := by
  obtain ⟨time, htime⟩ := Option.isSome_iff_exists.mp (hkeep zone hzone)
  obtain ⟨hne, hplain, -⟩ := zone_of_show? htime
  obtain ⟨front, back, rfl, hfront, hback, hpre⟩ := split_written_of_show? hkeep hv hps htime heq
  obtain ⟨back, rfl⟩ := exists_token_of_prefix (Matcher.isScan_of_append _ hps) hzone hne hplain.2
    hpre
  exact ⟨front, back, rfl, hfront, hback⟩

theorem occursAsToken_of_writes (hkeep : ∀ zone, keep zone = true → (show? i zone).isSome)
    (hv : Writes keep v) (hps : (zoned keep).IsScan ps) (hzone : keep zone = true)
    (hself : v (timePlaceholder zone) = timePlaceholder zone) :
    OccursAsToken v ps (timePlaceholder zone) := by
  intro before after
  constructor
  · intro heq
    obtain ⟨front, back, hsplit, hfront, hback⟩ := exists_token_of_written hkeep hv hps hzone heq
    rw [hself] at hback
    exact ⟨front, back, hsplit, hfront, List.append_cancel_left hback⟩
  · rintro ⟨front, back, rfl, rfl, rfl⟩
    rw [assemble_append, assemble_token, hself, List.append_assoc]

/-- A placeholder that was replaced does not occur any more. -/
theorem not_infix_of_written (hkeep : ∀ zone, keep zone = true → (show? i zone).isSome)
    (hv : Writes keep v) (hps : (zoned keep).IsScan ps) (hzone : keep zone = true)
    (hwritten : v (timePlaceholder zone) ≠ timePlaceholder zone) :
    ¬ timePlaceholder zone <:+: assemble v ps := by
  rintro ⟨before, after, heq⟩
  obtain ⟨front, back, -, -, hback⟩ := exists_token_of_written hkeep hv hps hzone heq.symm
  rcases hv zone hzone with hself | ⟨hplain, hblank⟩
  · exact hwritten hself
  · obtain ⟨c, cs, hcs⟩ := List.exists_cons_of_ne_nil (List.ne_nil_of_mem hblank)
    rw [hcs, timePlaceholder_eq] at hback
    have hc : c = '{' := (List.cons.inj hback).1
    exact hplain.1 (hcs ▸ hc ▸ List.mem_cons_self)

/-- Every order of the zones replaces the same occurrences by the same times. -/
theorem replacesTokens_of_perm (horder : order.Perm (zonesIn text)) :
    ReplacesTokens i text order ((zoned (isWritten i text)).pieces text) := by
  have hscan := (zoned (isWritten i text)).isScan_pieces text
  have hsource := (zoned (isWritten i text)).source_pieces text
  have hkeep : ∀ zone, isWritten i text zone = true → (show? i zone).isSome :=
    fun _ => isSome_of_isWritten
  have hdone {done todo : List (List Char)} (h : order = done ++ todo) :
      ∀ zone ∈ done, zone ∈ zonesIn text := by
    intro zone hmem
    exact horder.subset (h ▸ List.mem_append_left todo hmem)
  have hstanding {done : List (List Char)} {zone : List Char} (hfound : zone ∈ zonesIn text)
      (hsome : (show? i zone).isSome) (hmem : zone ∉ done) :
      OccursAsToken (stampAmong done i) ((zoned (isWritten i text)).pieces text)
        (timePlaceholder zone) := by
    obtain ⟨time, htime⟩ := Option.isSome_iff_exists.mp hsome
    exact occursAsToken_of_writes hkeep (stampAmong_writes hkeep done) hscan
      (isWritten_iff.mpr ⟨hsome, hfound⟩) (stampAmong_of_not_mem htime hmem)
  have hoccurs {zone : List Char} (hfound : zone ∈ zonesIn text) (hsome : (show? i zone).isSome) :
      OccursAsToken id ((zoned (isWritten i text)).pieces text) (timePlaceholder zone) := by
    rw [← stampAmong_nil i]
    exact hstanding hfound hsome List.not_mem_nil
  refine ⟨hsource, ?_, fun _ => hoccurs, ?_, ?_, ?_, ?_⟩
  · intro t ht
    obtain ⟨zone, hzone, rfl⟩ := zone_of_token hscan ht
    obtain ⟨hsome, hfound⟩ := isWritten_iff.mp hzone
    exact ⟨zone, hfound, hsome, rfl⟩
  · intro done todo h
    exact foldl_replaceZone_zonesIn (hdone h)
  · intro done todo _ zone hfound hsome hmem
    exact hstanding hfound hsome hmem
  · intro done todo h zone hmem hsome
    obtain ⟨time, htime⟩ := Option.isSome_iff_exists.mp hsome
    refine not_infix_of_written hkeep (stampAmong_writes hkeep done) hscan
      (isWritten_iff.mpr ⟨hsome, hdone h zone hmem⟩) ?_
    rw [stampAmong_of_mem htime hmem]
    exact time_ne_timePlaceholder htime zone
  · intro zone hfound other hother hsome hsome' before after before' after' heq heq'
    exact occurs_apart (hoccurs hfound hsome) (hoccurs hother hsome') (hsource.trans heq)
      (hsource.trans heq')

/-- The order of the zones does not matter: the loop puts times for all tokens at once. -/
theorem foldl_replaceZone_of_perm (horder : order.Perm (zonesIn text)) :
    order.foldl (replaceZone i) text = localize i text ∧
      ∃ ps, ReplacesTokens i text order ps ∧ localize i text = assemble (stamp i) ps := by
  have hscan := (zoned (isWritten i text)).isScan_pieces text
  refine ⟨?_, _, replacesTokens_of_perm horder, localize_eq i text⟩
  rw [foldl_replaceZone_zonesIn fun _ hmem => horder.subset hmem, localize_eq]
  exact assemble_stampAmong
    (fun zone hzone => (isWritten_iff.mp hzone).imp_right horder.mem_iff.mpr) hscan

end

/-- Two zones that are known, one of them named twice, and one that is not, taken backwards. -/
theorem foldl_replaceZone_backwards :
    let i : Instant := ⟨738885 * dayMicros, by decide⟩
    let text := ("\x7b\x7bTIME:UTC\x7d\x7d \x7b\x7b\x7bTIME:Asia/Tokyo\x7d\x7d\x7d " ++
      "\x7b\x7bTIME:\x7b\x7bTIME:UTC\x7d\x7d").toList
    let order := (zonesIn text).reverse
    order.Perm (zonesIn text) ∧ order ≠ zonesIn text ∧
      order.foldl (replaceZone i) text = localize i text ∧
      ∃ ps, ReplacesTokens i text order ps ∧ localize i text = assemble (stamp i) ps := by
  intro i text order
  have horder : order.Perm (zonesIn text) := List.reverse_perm _
  exact ⟨horder, by decide +kernel, foldl_replaceZone_of_perm horder⟩

end UptimeAlert.Template.ZonedTime
