import UptimeAlert.Proofs.Template.ZonedTime
import UptimeAlert.Proofs.Text.Digits

namespace UptimeAlert.Template.ZonedTime

open UptimeAlert.Text

theorem not_mem_of_digits {c : Char} {cs : List Char} (h : ∀ d ∈ cs, isDigit d = true)
    (hc : isDigit c = false) : c ∉ cs := by
  intro hmem
  rw [h c hmem] at hc
  cases hc

/-- What may be written for the time placeholders of some zones: themselves, or a text that holds a
blank but no brace. -/
def Writes (keep : List Char → Bool) (v : List Char → List Char) : Prop :=
  ∀ zone, keep zone = true → v (timePlaceholder zone) = timePlaceholder zone ∨
    BraceFree (v (timePlaceholder zone)) ∧ ' ' ∈ v (timePlaceholder zone)

variable {keep : List Char → Bool} {v : List Char → List Char} {n : List Char}

/-- What follows the first brace of a placeholder does not begin where something is written. -/
theorem not_prefix_written (hn : BraceFree n) (hblank : ' ' ∉ n) {w p : List Char}
    (hw : v (timePlaceholder w) = timePlaceholder w ∨
      BraceFree (v (timePlaceholder w)) ∧ ' ' ∈ v (timePlaceholder w))
    (hp : p <:+ '{' :: (n ++ ['}', '}'])) (hne : p ≠ []) (y : List Char) :
    ¬ p <+: v (timePlaceholder w) ++ y := by
  intro hpre
  rcases hw with heq | ⟨hplain, hmem⟩
  · -- a brace stands in `p` at its beginning at most, and then no other one follows it
    rw [heq, timePlaceholder_eq] at hpre
    obtain ⟨c, p, rfl⟩ := List.exists_cons_of_ne_nil hne
    obtain ⟨rfl, hsecond⟩ := List.cons_prefix_cons.mp hpre
    rcases List.suffix_cons_iff.mp hp with htail | hin
    · have hbrace : '{' ∈ n ++ ['}', '}'] := by
        rw [(List.cons.inj htail).2] at hsecond
        cases n with
        | nil => simp at hsecond
        | cons d n => exact List.mem_cons.mpr (.inl (List.cons_prefix_cons.mp hsecond).1.symm)
      exact hn.1 (by simpa using hbrace)
    · have hbrace := hin.subset List.mem_cons_self
      exact hn.1 (by simpa using hbrace)
  · -- the written text would have to reach to the last brace, or to stand before it
    rcases List.prefix_or_prefix_of_prefix hpre (List.prefix_append _ y) with hin | hout
    · have hlast : p.getLast hne = '}' := by
        rw [hp.getLast hne]
        simp
      exact hplain.2 (hin.subset (hlast ▸ List.getLast_mem hne))
    · have hall : ' ' ∈ '{' :: (n ++ ['}', '}']) := hp.subset (hout.subset hmem)
      simp [hblank] at hall

/-- The rest of a placeholder that stands in a written text stood in the text before. -/
theorem prefix_source_of_written (hv : Writes keep v) (hn : BraceFree n) (hblank : ' ' ∉ n)
    {ps : List Piece} (hps : (zoned keep).IsScan ps) {p : List Char}
    (hp : p <:+ '{' :: (n ++ ['}', '}'])) (hpre : p <+: assemble v ps) : p <+: source ps := by
  induction ps generalizing p with
  | nil => exact hpre
  | cons piece ps ih =>
    cases p with
    | nil => exact List.nil_prefix
    | cons c p =>
      cases piece with
      | literal d =>
        obtain ⟨rfl, hrest⟩ := List.cons_prefix_cons.mp hpre
        exact List.cons_prefix_cons.mpr
          ⟨rfl, ih hps.2 ((List.suffix_cons c p).trans hp) hrest⟩
      | token t =>
        obtain ⟨w, hw, rfl⟩ := zone_of_token hps List.mem_cons_self
        exact absurd hpre (not_prefix_written hn hblank (hv w hw) hp (by simp) _)

theorem prefix_literal_of_written (hv : Writes keep v) (hn : BraceFree n) (hblank : ' ' ∉ n)
    {ps : List Piece} (hps : (zoned keep).IsScan ps) {c : Char}
    (hpre : placeholder n <+: c :: assemble v ps) : placeholder n <+: c :: source ps := by
  obtain ⟨rfl, htail⟩ := List.cons_prefix_cons.mp hpre
  exact List.cons_prefix_cons.mpr
    ⟨rfl, prefix_source_of_written hv hn hblank hps List.suffix_rfl htail⟩

/-- An occurrence in a written text begins with a piece that it stood at before, or after it. -/
theorem split_written_cons (hv : Writes keep v) (hn : BraceFree n) (hblank : ' ' ∉ n)
    (hkeep : ∀ zone, keep zone = true → BraceFree zone) {piece : Piece} {ps : List Piece}
    (hps : (zoned keep).IsScan (piece :: ps)) {before after : List Char}
    (heq : assemble v (piece :: ps) = before ++ placeholder n ++ after) :
    before = [] ∧ placeholder n <+: source (piece :: ps) ∨
      ∃ rest, before = assemble v [piece] ++ rest ∧
        assemble v ps = rest ++ placeholder n ++ after := by
  cases piece with
  | literal c =>
    cases before with
    | nil => exact .inl ⟨rfl, prefix_literal_of_written hv hn hblank hps.2 ⟨after, heq.symm⟩⟩
    | cons d before =>
      obtain ⟨rfl, htail⟩ := List.cons.inj heq
      exact .inr ⟨before, rfl, htail⟩
  | token t =>
    obtain ⟨w, hw, rfl⟩ := zone_of_token hps List.mem_cons_self
    have hpiece : assemble v [.token (timePlaceholder w)] = v (timePlaceholder w) :=
      List.append_nil _
    rw [hpiece]
    rcases hv w hw with hsame | ⟨hplain, -⟩
    · have hbraces := braceFree_timeName (hkeep w hw)
      rw [assemble_token, hsame, timePlaceholder_eq] at heq
      rw [hsame, timePlaceholder_eq]
      by_cases hname : n = timeName w
      · subst hname
        cases before with
        | nil => exact .inl ⟨rfl, List.prefix_append _ _⟩
        | cons d before =>
          -- a placeholder does not overlap with itself
          obtain ⟨rfl, htail⟩ := List.cons.inj heq
          obtain ⟨rest, rfl, hrest⟩ := split_of_avoids (avoids_placeholder_tail hbraces _ _) htail
          exact .inr ⟨rest, rfl, hrest⟩
      · exact .inr (split_of_avoids (avoids_placeholder hn hbraces hname _) heq)
    · exact .inr (split_of_avoids (avoids_plain hplain n _) heq)

/-- A placeholder of a name without braces and blanks that stands in a written text stood in the
text before, at the same place among the pieces. -/
theorem split_written (hv : Writes keep v) (hn : BraceFree n) (hblank : ' ' ∉ n)
    (hkeep : ∀ zone, keep zone = true → BraceFree zone) {ps : List Piece}
    (hps : (zoned keep).IsScan ps) {before after : List Char}
    (heq : assemble v ps = before ++ placeholder n ++ after) :
    ∃ front back, ps = front ++ back ∧ assemble v front = before ∧
      assemble v back = placeholder n ++ after ∧ placeholder n <+: source back := by
  induction ps generalizing before with
  | nil => simp [placeholder] at heq
  | cons piece ps ih =>
    rcases split_written_cons hv hn hblank hkeep hps heq with ⟨rfl, hpre⟩ | ⟨rest, rfl, hrest⟩
    · exact ⟨[], _, rfl, rfl, heq, hpre⟩
    · obtain ⟨front, back, rfl, rfl, hback, hpre⟩ := ih (Matcher.isScan_of_cons _ hps) hrest
      exact ⟨piece :: front, back, rfl, by rw [← assemble_append]; rfl, hback, hpre⟩

/-- Writing times makes no placeholder of a name without braces and blanks. -/
theorem infix_source_of_written (hv : Writes keep v) (hn : BraceFree n) (hblank : ' ' ∉ n)
    (hkeep : ∀ zone, keep zone = true → BraceFree zone) {ps : List Piece}
    (hps : (zoned keep).IsScan ps) (hin : placeholder n <:+: assemble v ps) :
    placeholder n <:+: source ps := by
  obtain ⟨before, after, heq⟩ := hin
  obtain ⟨front, back, rfl, -, -, hpre⟩ := split_written hv hn hblank hkeep hps heq.symm
  rw [source_append]
  exact hpre.isInfix.trans (List.suffix_append _ _).isInfix

variable [Platform]

/-- The name of a zone that can be shown holds neither braces nor blanks. -/
theorem zone_of_show? {i : Instant} {zone time : List Char} (h : show? i zone = some time) :
    zone ≠ [] ∧ BraceFree zone ∧ ' ' ∉ zone := by
  obtain ⟨wall, hwall, -⟩ := Option.map_eq_some_iff.mp h
  obtain ⟨z, hz, -⟩ := Option.bind_eq_some_iff.mp hwall
  obtain ⟨hne, hopen, hclose, hblank⟩ := Platform.plain_of_zone? hz
  simp only [String.toList_ofList] at hopen hclose hblank
  exact ⟨fun h => hne (by rw [h]), ⟨hopen, hclose⟩, hblank⟩

/-- A shown time holds a blank and no brace, so it neither makes nor breaks a placeholder. -/
theorem time_of_show? {i : Instant} {zone time : List Char} (h : show? i zone = some time) :
    BraceFree time ∧ ' ' ∈ time := by
  obtain ⟨wall, -, rfl⟩ := Option.map_eq_some_iff.mp h
  have hbrace (c : Char) (hc : isDigit c = false) (hsep : c ∉ [' ', '-', ':', '.']) :
      c ∉ wall.timestamp := by
    have hpadded (w n : Nat) : c ∉ padded w n :=
      not_mem_of_digits (fun _ => isDigit_of_mem_padded) hc
    have hdecimal (n : Nat) : c ∉ decimal n :=
      not_mem_of_digits (fun _ => isDigit_of_mem_decimal) hc
    simp only [List.mem_cons, List.not_mem_nil, or_false, not_or] at hsep
    simp [WallTime.timestamp, WallTime.monthDayText, WallTime.clockText, hpadded, hdecimal, hsep]
  refine ⟨⟨hbrace '{' (by decide) (by decide), hbrace '}' (by decide) (by decide)⟩, ?_⟩
  simp [WallTime.timestamp]

theorem time_ne_timePlaceholder {i : Instant} {zone time : List Char}
    (h : show? i zone = some time) (w : List Char) : time ≠ timePlaceholder w := by
  rintro rfl
  exact (time_of_show? h).1.1 (by simp [timePlaceholder_eq, placeholder])

/-- A time placeholder as its time, if its zone is among those given and can be shown; all else as
it is. -/
def stampAmong (zones : List (List Char)) (i : Instant) (token : List Char) : List Char :=
  (((zoneAt? token).filter zones.contains).bind (show? i)).getD token

/-- A time placeholder as its time, if its zone can be shown; all else as it is. -/
def stamp (i : Instant) (token : List Char) : List Char :=
  ((zoneAt? token).bind (show? i)).getD token

theorem stamp_of_show? {i : Instant} {zone time : List Char} (h : show? i zone = some time) :
    stamp i (timePlaceholder zone) = time := by
  obtain ⟨hne, hplain, -⟩ := zone_of_show? h
  simp [stamp, zoneAt?_timePlaceholder hne hplain.2, h]

theorem stampAmong_of_mem {zones : List (List Char)} {i : Instant} {zone time : List Char}
    (h : show? i zone = some time) (hmem : zone ∈ zones) :
    stampAmong zones i (timePlaceholder zone) = time := by
  obtain ⟨hne, hplain, -⟩ := zone_of_show? h
  simp [stampAmong, zoneAt?_timePlaceholder hne hplain.2, Option.filter_some, hmem, h]

theorem stampAmong_of_not_mem {zones : List (List Char)} {i : Instant} {zone time : List Char}
    (h : show? i zone = some time) (hmem : zone ∉ zones) :
    stampAmong zones i (timePlaceholder zone) = timePlaceholder zone := by
  obtain ⟨hne, hplain, -⟩ := zone_of_show? h
  simp [stampAmong, zoneAt?_timePlaceholder hne hplain.2, Option.filter_some, hmem]

theorem stampAmong_nil (i : Instant) : stampAmong [] i = id := by
  funext token
  cases h : zoneAt? token <;> simp [stampAmong, h, Option.filter_some]

theorem stampAmong_congr {zones zones' : List (List Char)} (i : Instant)
    (h : ∀ zone, zone ∈ zones ↔ zone ∈ zones') : stampAmong zones i = stampAmong zones' i := by
  have hsame : zones.contains = zones'.contains := by
    funext zone
    simp [h]
  funext token
  rw [stampAmong, hsame, stampAmong]

theorem stampAmong_cons_of_none {zones : List (List Char)} {i : Instant} {zone : List Char}
    (h : show? i zone = none) : stampAmong (zone :: zones) i = stampAmong zones i := by
  funext token
  unfold stampAmong
  cases zoneAt? token with
  | none => rfl
  | some w =>
    by_cases hw : w = zone
    · subst hw
      by_cases hmem : w ∈ zones <;> simp [Option.filter_some, hmem, h]
    · by_cases hmem : w ∈ zones <;> simp [Option.filter_some, hmem, hw]

variable {i : Instant}

theorem braceFree_of_show? {zone : List Char} (h : (show? i zone).isSome) : BraceFree zone := by
  obtain ⟨time, htime⟩ := Option.isSome_iff_exists.mp h
  exact (zone_of_show? htime).2.1

/-- The placeholder of a zone that can be shown stands in a written text where it stood before. -/
theorem split_written_of_show? (hkeep : ∀ zone, keep zone = true → (show? i zone).isSome)
    (hv : Writes keep v) {ps : List Piece} (hps : (zoned keep).IsScan ps) {zone time : List Char}
    (hshow : show? i zone = some time) {before after : List Char}
    (heq : assemble v ps = before ++ timePlaceholder zone ++ after) :
    ∃ front back, ps = front ++ back ∧ assemble v front = before ∧
      assemble v back = timePlaceholder zone ++ after ∧ timePlaceholder zone <+: source back := by
  obtain ⟨-, hplain, hblank⟩ := zone_of_show? hshow
  have hname : ' ' ∉ timeName zone := by simpa [timeName] using hblank
  rw [timePlaceholder_eq] at heq ⊢
  exact split_written hv (braceFree_timeName hplain) hname
    (fun w hw => braceFree_of_show? (hkeep w hw)) hps heq

theorem stamp_writes (hkeep : ∀ zone, keep zone = true → (show? i zone).isSome) :
    Writes keep (stamp i) := by
  intro w hw
  obtain ⟨time, htime⟩ := Option.isSome_iff_exists.mp (hkeep w hw)
  rw [stamp_of_show? htime]
  exact .inr (time_of_show? htime)

theorem stampAmong_writes (hkeep : ∀ zone, keep zone = true → (show? i zone).isSome)
    (zones : List (List Char)) : Writes keep (stampAmong zones i) := by
  intro w hw
  obtain ⟨time, htime⟩ := Option.isSome_iff_exists.mp (hkeep w hw)
  by_cases hmem : w ∈ zones
  · rw [stampAmong_of_mem htime hmem]
    exact .inr (time_of_show? htime)
  · exact .inl (stampAmong_of_not_mem htime hmem)

/-- One step of the replacement loop writes the times of one more zone. -/
theorem replaceZone_stamped (hkeep : ∀ zone, keep zone = true → (show? i zone).isSome)
    {zones : List (List Char)} {z : List Char} (hz : (show? i z).isSome → keep z = true)
    {ps : List Piece} (hps : (zoned keep).IsScan ps) :
    replaceZone i (assemble (stampAmong zones i) ps) z =
      assemble (stampAmong (z :: zones) i) ps := by
  cases hshow : show? i z with
  | none => simp [replaceZone, hshow, stampAmong_cons_of_none hshow]
  | some tz =>
    have hzkeep := hz (by simp [hshow])
    obtain ⟨hzne, hzplain, hzblank⟩ := zone_of_show? hshow
    simp only [replaceZone, hshow]
    induction ps with
    | nil => rfl
    | cons piece ps ih =>
      cases piece with
      | literal c =>
        have hblank : ' ' ∉ timeName z := by simpa [timeName] using hzblank
        have havoid : Avoids (timePlaceholder z) [c] (assemble (stampAmong zones i) ps) := by
          refine avoids_cons.mpr ⟨fun hpre => ?_, by simp [Avoids]⟩
          rw [timePlaceholder_eq] at hpre
          obtain ⟨r, hr⟩ := prefix_literal_of_written (stampAmong_writes hkeep zones)
            (braceFree_timeName hzplain) hblank hps.2 hpre
          have hhit := zoned_at?_timePlaceholder hzkeep hzne hzplain.2 r
          rw [timePlaceholder_eq, hr, hps.1] at hhit
          cases hhit
        simpa [ih hps.2] using replaceAll_append tz havoid
      | token t =>
        obtain ⟨w, hw, rfl⟩ := zone_of_token hps List.mem_cons_self
        obtain ⟨tw, htw⟩ := Option.isSome_iff_exists.mp (hkeep w hw)
        have hwplain := (zone_of_show? htw).2.1
        rw [assemble_token, assemble_token, ← ih hps.2]
        by_cases hmem : w ∈ zones
        · rw [stampAmong_of_mem htw hmem, stampAmong_of_mem htw (List.mem_cons_of_mem z hmem),
            timePlaceholder_eq]
          exact replaceAll_append tz (avoids_plain (time_of_show? htw).1 (timeName z) _)
        · rw [stampAmong_of_not_mem htw hmem]
          by_cases hwz : w = z
          · subst hwz
            obtain rfl : tz = tw := by simpa [hshow] using htw
            rw [stampAmong_of_mem htw List.mem_cons_self]
            exact replaceAll_self (by simp [timePlaceholder]) tz _
          · have hname : timeName z ≠ timeName w := by simpa [timeName] using Ne.symm hwz
            rw [stampAmong_of_not_mem htw (by simp [hwz, hmem]), timePlaceholder_eq,
              timePlaceholder_eq]
            exact replaceAll_append tz (avoids_placeholder (braceFree_timeName hzplain)
              (braceFree_timeName hwplain) hname _)

/-- The loop over the zones, from any point on: the zones before are stamped, and those to come will
be. -/
theorem foldl_replaceZone (hkeep : ∀ zone, keep zone = true → (show? i zone).isSome)
    {todo : List (List Char)} (htodo : ∀ z ∈ todo, (show? i z).isSome → keep z = true)
    {ps : List Piece} (hps : (zoned keep).IsScan ps) (zones : List (List Char)) :
    todo.foldl (replaceZone i) (assemble (stampAmong zones i) ps) =
      assemble (stampAmong (todo.reverse ++ zones) i) ps := by
  induction todo generalizing zones with
  | nil => rfl
  | cons z todo ih =>
    rw [List.foldl_cons, replaceZone_stamped hkeep (htodo z List.mem_cons_self) hps,
      ih fun w hw => htodo w (List.mem_cons_of_mem z hw)]
    simp

/-- Whether a zone is found in a text and can be shown. -/
def isWritten (i : Instant) (text zone : List Char) : Bool :=
  (show? i zone).isSome && (zonesIn text).contains zone

theorem isWritten_iff {text zone : List Char} :
    isWritten i text zone = true ↔ (show? i zone).isSome ∧ zone ∈ zonesIn text := by
  simp [isWritten]

theorem isSome_of_isWritten {text zone : List Char} (h : isWritten i text zone = true) :
    (show? i zone).isSome :=
  (isWritten_iff.mp h).1

theorem assemble_stampAmong {zones : List (List Char)}
    (hkeep : ∀ zone, keep zone = true → (show? i zone).isSome ∧ zone ∈ zones) {ps : List Piece}
    (hps : (zoned keep).IsScan ps) : assemble (stampAmong zones i) ps = assemble (stamp i) ps := by
  refine assemble_congr fun t ht => ?_
  obtain ⟨zone, hzone, rfl⟩ := zone_of_token hps ht
  obtain ⟨hsome, hmem⟩ := hkeep zone hzone
  obtain ⟨time, htime⟩ := Option.isSome_iff_exists.mp hsome
  rw [stampAmong_of_mem htime hmem, stamp_of_show? htime]

/-- The loop over some zones of a text writes their times at once. -/
theorem foldl_replaceZone_zonesIn {text : List Char} {zones : List (List Char)}
    (hzones : ∀ zone ∈ zones, zone ∈ zonesIn text) :
    zones.foldl (replaceZone i) text =
      assemble (stampAmong zones i) ((zoned (isWritten i text)).pieces text) := by
  have hscan := (zoned (isWritten i text)).isScan_pieces text
  have hnone : assemble (stampAmong [] i) ((zoned (isWritten i text)).pieces text) = text := by
    rw [stampAmong_nil]
    exact (zoned (isWritten i text)).source_pieces text
  have hloop := foldl_replaceZone (fun _ => isSome_of_isWritten)
    (fun zone (hmem : zone ∈ zones) h => isWritten_iff.mpr ⟨h, hzones zone hmem⟩) hscan []
  rw [hnone, List.append_nil] at hloop
  rw [hloop, stampAmong_congr i fun zone => List.mem_reverse]

/-- All time placeholders of zones that were found and can be shown are written at once. -/
theorem localize_eq (i : Instant) (text : List Char) :
    localize i text = assemble (stamp i) ((zoned (isWritten i text)).pieces text) := by
  rw [localize, foldl_replaceZone_zonesIn fun _ => id]
  exact assemble_stampAmong (fun _ => isWritten_iff.mp) ((zoned (isWritten i text)).isScan_pieces _)

end UptimeAlert.Template.ZonedTime
