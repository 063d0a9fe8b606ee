import UptimeAlert.Proofs.Template.Placeholder
import UptimeAlert.Template.ZonedTime

namespace UptimeAlert.Template.ZonedTime

open UptimeAlert.Text

/-- The name that stands in the time placeholder of a zone. -/
def timeName (zone : List Char) : List Char :=
  ['T', 'I', 'M', 'E', ':'] ++ zone

theorem lead_eq : lead = ['{', '{', 'T', 'I', 'M', 'E', ':'] := by decide

theorem timePlaceholder_eq (zone : List Char) :
    timePlaceholder zone = placeholder (timeName zone) := by
  simp [timePlaceholder, lead_eq, placeholder, timeName]

theorem braceFree_timeName {zone : List Char} (h : BraceFree zone) : BraceFree (timeName zone) := by
  simpa [BraceFree, timeName] using h

theorem timePlaceholder_inj {z w : List Char} (h : timePlaceholder z = timePlaceholder w) :
    z = w := by
  simpa [timePlaceholder] using h

/-- A zone is found exactly where a time placeholder with its name begins. -/
theorem zoneAt?_eq_some_iff {cs zone : List Char} :
    zoneAt? cs = some zone ↔ zone ≠ [] ∧ '}' ∉ zone ∧ timePlaceholder zone <+: cs := by
  constructor
  · intro h
    unfold zoneAt? at h
    cases hrest : lead.isPrefixOf? cs with
    | none => simp [hrest] at h
    | some rest =>
      have hcs := isPrefixOf?_eq_some_iff.mp hrest
      simp only [hrest, Option.ite_none_right_eq_some, Option.some.injEq] at h
      obtain ⟨hcond, rfl⟩ := h
      simp only [Bool.and_eq_true, Bool.not_eq_true', List.isEmpty_eq_false_iff,
        List.isPrefixOf_iff_prefix] at hcond
      obtain ⟨hne, hclose⟩ := hcond
      refine ⟨hne, fun hmem => by simpa using List.mem_takeWhile_imp hmem, ?_⟩
      obtain ⟨r, hr⟩ := hclose
      have htake : rest.takeWhile (· != '}') = rest.take (rest.takeWhile (· != '}')).length :=
        List.prefix_iff_eq_take.mp (List.takeWhile_prefix _)
      refine ⟨r, ?_⟩
      calc timePlaceholder (rest.takeWhile (· != '}')) ++ r
          = lead ++ (rest.takeWhile (· != '}') ++ (['}', '}'] ++ r)) := by simp [timePlaceholder]
        _ = lead ++ rest := by rw [hr]; nth_rewrite 1 [htake]; rw [List.take_append_drop]
        _ = cs := hcs.symm
  · rintro ⟨hne, hclose, r, rfl⟩
    have hlead : lead.isPrefixOf? (timePlaceholder zone ++ r) =
        some (zone ++ '}' :: '}' :: r) := by
      rw [isPrefixOf?_eq_some_iff]
      simp [timePlaceholder]
    simp [zoneAt?, hlead, takeWhile_append_self hclose, hne]

theorem zoneAt?_timePlaceholder {zone : List Char} (hne : zone ≠ []) (hclose : '}' ∉ zone) :
    zoneAt? (timePlaceholder zone) = some zone :=
  zoneAt?_eq_some_iff.mpr ⟨hne, hclose, List.prefix_rfl⟩

/-- The first closing braces of a text that ends with its only ones are those. -/
theorem append_close_inj {x y v : List Char} (hx : '}' ∉ x)
    (h : y ++ '}' :: '}' :: v = x ++ ['}', '}']) : y = x ∧ v = [] := by
  rcases List.append_eq_append_iff.mp h with ⟨w, hw, hrest⟩ | ⟨w, hw, hrest⟩
  · cases w with
    | nil => exact ⟨by simpa using hw.symm, by simpa using hrest⟩
    | cons c w =>
      obtain ⟨rfl, -⟩ := List.cons.inj hrest
      exact absurd (by simp [hw]) hx
  · have hlen := congrArg List.length hrest
    simp only [List.length_cons, List.length_nil, List.length_append] at hlen
    have hnil : w = [] := List.eq_nil_of_length_eq_zero (by omega)
    exact ⟨by simpa [hnil] using hw, List.eq_nil_of_length_eq_zero (by omega)⟩

/-- A time placeholder that begins before closing braces ends with them at the latest. -/
theorem prefix_of_prefix_append_close {zone s y : List Char} (hclose : '}' ∉ zone)
    (h : timePlaceholder zone <+: s ++ '}' :: '}' :: y) :
    timePlaceholder zone <+: s ++ ['}', '}'] := by
  have hhead : '}' ∉ lead ++ zone := by simpa [lead_eq] using hclose
  have hs : s ++ ['}', '}'] <+: s ++ '}' :: '}' :: y := ⟨y, by simp⟩
  rcases List.prefix_or_prefix_of_prefix h hs with hin | ⟨v, hv⟩
  · exact hin
  · -- the two braces at the end are the only ones, so nothing follows them
    have heq : s ++ '}' :: '}' :: v = (lead ++ zone) ++ ['}', '}'] := by
      simpa [timePlaceholder] using hv
    rw [(append_close_inj hhead heq).2, List.append_nil] at hv
    exact hv ▸ List.prefix_rfl

theorem zoneAt?_append_close {x s : List Char} (hs : s <:+ x ++ ['}', '}']) (hne : s ≠ [])
    (y : List Char) : zoneAt? (s ++ y) = zoneAt? s := by
  ext zone
  rw [zoneAt?_eq_some_iff, zoneAt?_eq_some_iff]
  refine ⟨fun ⟨hz, hclose, hpre⟩ => ⟨hz, hclose, ?_⟩,
    fun ⟨hz, hclose, hpre⟩ => ⟨hz, hclose, hpre.trans (List.prefix_append _ _)⟩⟩
  obtain ⟨w, hw⟩ := hs
  rcases List.append_eq_append_iff.mp hw with ⟨v, -, rfl⟩ | ⟨v, -, hv⟩
  · rw [List.append_assoc] at hpre
    exact prefix_of_prefix_append_close hclose hpre
  · obtain ⟨c, s, rfl⟩ := List.exists_cons_of_ne_nil hne
    have hc : c ∈ ['}', '}'] := hv ▸ List.mem_append_right v List.mem_cons_self
    rw [timePlaceholder_eq] at hpre
    have hopen : '{' = c := (List.cons_prefix_cons.mp hpre).1
    rw [← hopen] at hc
    exact absurd hc (by decide)

/-- Finds the time placeholders of some zones. -/
def zoned (keep : List Char → Bool) : Matcher where
  at? cs := ((zoneAt? cs).filter keep).map timePlaceholder
  begins cs t h := by
    obtain ⟨zone, hzone, rfl⟩ := Option.map_eq_some_iff.mp h
    exact (zoneAt?_eq_some_iff.mp (Option.filter_eq_some_iff.mp hzone).1).2.2
  ne_nil cs t h := by
    obtain ⟨zone, -, rfl⟩ := Option.map_eq_some_iff.mp h
    simp [timePlaceholder]

variable {keep : List Char → Bool}

theorem zoned_at?_eq_some_iff {cs t : List Char} :
    (zoned keep).at? cs = some t ↔
      ∃ zone, keep zone = true ∧ zone ≠ [] ∧ '}' ∉ zone ∧ t = timePlaceholder zone ∧ t <+: cs := by
  simp only [zoned, Option.map_eq_some_iff, Option.filter_eq_some_iff, zoneAt?_eq_some_iff]
  constructor
  · rintro ⟨zone, ⟨⟨hne, hclose, hpre⟩, hkeep⟩, rfl⟩
    exact ⟨zone, hkeep, hne, hclose, rfl, hpre⟩
  · rintro ⟨zone, hkeep, hne, hclose, rfl, hpre⟩
    exact ⟨zone, ⟨⟨hne, hclose, hpre⟩, hkeep⟩, rfl⟩

theorem zoned_at?_timePlaceholder {zone : List Char} (hkeep : keep zone = true) (hne : zone ≠ [])
    (hclose : '}' ∉ zone) (y : List Char) :
    (zoned keep).at? (timePlaceholder zone ++ y) = some (timePlaceholder zone) :=
  zoned_at?_eq_some_iff.mpr ⟨zone, hkeep, hne, hclose, rfl, List.prefix_append _ _⟩

/-- Where no zone is found at all, none of some zones is. -/
theorem zoned_at?_eq_none {cs : List Char} (h : (zoned fun _ => true).at? cs = none) :
    (zoned keep).at? cs = none := by
  rw [Option.eq_none_iff_forall_ne_some] at h ⊢
  intro t ht
  obtain ⟨zone, -, hne, hclose, rfl, hpre⟩ := zoned_at?_eq_some_iff.mp ht
  exact h _ (zoned_at?_eq_some_iff.mpr ⟨zone, rfl, hne, hclose, rfl, hpre⟩)

/-- A scan for zones begins anew after closing braces. -/
theorem pieces_append_close (keep : List Char → Bool) (x y : List Char) :
    (zoned keep).pieces (x ++ ['}', '}'] ++ y) =
      (zoned keep).pieces (x ++ ['}', '}']) ++ (zoned keep).pieces y := by
  apply Matcher.pieces_append
  intro s hs hne
  simp only [zoned, zoneAt?_append_close hs hne]

theorem zoned_braced (h : ∀ zone, keep zone = true → BraceFree zone) : (zoned keep).Braced where
  shape cs t ht := by
    obtain ⟨zone, hkeep, -, -, rfl, -⟩ := zoned_at?_eq_some_iff.mp ht
    exact ⟨timeName zone, braceFree_timeName (h zone hkeep), timePlaceholder_eq zone⟩
  kept cs t ht y := by
    obtain ⟨zone, hkeep, hne, hclose, rfl, -⟩ := zoned_at?_eq_some_iff.mp ht
    exact zoned_at?_timePlaceholder hkeep hne hclose y

theorem avoids_lead_placeholder {c : Char} {name : List Char} (hname : '{' ∉ c :: name)
    (hc : c ≠ 'T') (y : List Char) : Avoids lead (placeholder (c :: name)) y := by
  have hne : '{' ≠ c := fun h => hname (h ▸ List.mem_cons_self)
  have hrest : '{' ∉ c :: name ++ ['}', '}'] := by simpa using hname
  have hchars : placeholder (c :: name) = '{' :: '{' :: (c :: name ++ ['}', '}']) := rfl
  rw [hchars, lead_eq, avoids_cons, avoids_cons]
  refine ⟨fun h => ?_, fun h => ?_, avoids_of_not_mem hrest⟩
  · simp [List.cons_prefix_cons, Ne.symm hc] at h
  · simp [List.cons_prefix_cons, hne] at h

theorem zoned_pieces_literals (keep : List Char → Bool) {x y : List Char} (h : Avoids lead x y) :
    (zoned keep).pieces (x ++ y) = x.map .literal ++ (zoned keep).pieces y := by
  apply Matcher.pieces_literals
  intro s hs hne
  rw [Option.eq_none_iff_forall_ne_some]
  intro t ht
  obtain ⟨zone, -, -, -, rfl, hpre⟩ := zoned_at?_eq_some_iff.mp ht
  have hlead : lead <+: timePlaceholder zone := ⟨zone ++ ['}', '}'], by simp [timePlaceholder]⟩
  exact h s hs hne (hlead.trans hpre)

theorem zoned_at?_placeholder_eq_none {name : List Char} (hplain : BraceFree name)
    (hkeep : ∀ zone, keep zone = true → BraceFree zone)
    (hname : ∀ zone, zone ≠ [] → timeName zone ≠ name) :
    (zoned keep).at? (placeholder name) = none := by
  rw [Option.eq_none_iff_forall_ne_some]
  intro t ht
  obtain ⟨zone, hzone, hne, -, rfl, hpre⟩ := zoned_at?_eq_some_iff.mp ht
  rw [timePlaceholder_eq] at hpre
  exact hname zone hne ((placeholder_prefix_iff (braceFree_timeName (hkeep zone hzone)) hplain
    []).mp (by simpa using hpre))

theorem zone_of_token {t : List Char} {ps : List Piece} (hps : (zoned keep).IsScan ps)
    (ht : .token t ∈ ps) : ∃ zone, keep zone = true ∧ t = timePlaceholder zone := by
  obtain ⟨cs, hcs⟩ := (zoned keep).exists_at?_of_mem hps ht
  obtain ⟨zone, hkeep, -, -, rfl, -⟩ := zoned_at?_eq_some_iff.mp hcs
  exact ⟨zone, hkeep, rfl⟩

/-- A scan that stands before a placeholder takes it as its next piece. -/
theorem exists_token_of_prefix {ps : List Piece} (hps : (zoned keep).IsScan ps) {zone : List Char}
    (hkeep : keep zone = true) (hne : zone ≠ []) (hclose : '}' ∉ zone)
    (hpre : timePlaceholder zone <+: source ps) :
    ∃ rest, ps = .token (timePlaceholder zone) :: rest := by
  obtain ⟨y, hy⟩ := hpre
  have hhit := zoned_at?_timePlaceholder hkeep hne hclose y
  cases ps with
  | nil => simp [timePlaceholder, source] at hy
  | cons piece ps =>
    cases piece with
    | literal c =>
      have hnone : (zoned keep).at? (source (.literal c :: ps)) = none := hps.1
      rw [← hy, hhit] at hnone
      cases hnone
    | token t =>
      have hsome : (zoned keep).at? (source (.token t :: ps)) = some t := hps.1
      rw [← hy, hhit] at hsome
      cases hsome
      exact ⟨ps, rfl⟩

theorem not_mem_front {w zone front : List Char} (hw : '}' ∉ w)
    (hsplit : timePlaceholder w = front ++ timePlaceholder zone) : '}' ∉ front := by
  have hheads : lead ++ w = front ++ (lead ++ zone) := by
    refine List.append_cancel_right (?_ : _ ++ ['}', '}'] = _ ++ ['}', '}'])
    simpa [timePlaceholder] using hsplit
  have hhead : '}' ∉ lead ++ w := by simpa [lead_eq] using hw
  rw [hheads] at hhead
  exact fun hmem => hhead (List.mem_append_left _ hmem)

/-- A time placeholder that begins inside of another one ends with it. -/
theorem ends_with_match {w zone before s y after : List Char} (hw : '}' ∉ w) (hne : zone ≠ [])
    (hclose : '}' ∉ zone) (hs : s ≠ []) (hsplit : timePlaceholder w = before ++ s)
    (heq : timePlaceholder zone ++ after = s ++ y) : s = timePlaceholder zone ∧ y = after := by
  have hsuffix : s <:+ (lead ++ w) ++ ['}', '}'] := ⟨before, hsplit.symm⟩
  have hzone : zoneAt? (s ++ y) = some zone :=
    zoneAt?_eq_some_iff.mpr ⟨hne, hclose, ⟨after, heq⟩⟩
  rw [zoneAt?_append_close hsuffix hs] at hzone
  obtain ⟨r, rfl⟩ := (zoneAt?_eq_some_iff.mp hzone).2.2
  have hhead : '}' ∉ lead ++ w := by simpa [lead_eq] using hw
  have hbraces : (before ++ lead ++ zone) ++ '}' :: '}' :: r = (lead ++ w) ++ ['}', '}'] := by
    simpa [timePlaceholder] using hsplit.symm
  obtain ⟨-, rfl⟩ := append_close_inj hhead hbraces
  rw [List.append_nil] at heq ⊢
  exact ⟨rfl, (List.append_cancel_left heq).symm⟩

/-- An occurrence that begins in the first piece ends a match; any other lies in the pieces after
it. -/
theorem exists_match_cons {piece : Piece} {ps : List Piece}
    (hps : (zoned fun _ => true).IsScan (piece :: ps)) {zone before after : List Char}
    (hne : zone ≠ []) (hclose : '}' ∉ zone)
    (heq : source (piece :: ps) = before ++ timePlaceholder zone ++ after) :
    (∃ w, piece = .token (timePlaceholder w) ∧ timePlaceholder w = before ++ timePlaceholder zone ∧
        '}' ∉ before ∧ source ps = after) ∨
      ∃ rest, before = source [piece] ++ rest ∧
        source ps = rest ++ timePlaceholder zone ++ after := by
  cases piece with
  | literal c =>
    cases before with
    | nil =>
      obtain ⟨rest, hrest⟩ := exists_token_of_prefix hps rfl hne hclose ⟨after, heq.symm⟩
      cases hrest
    | cons d before =>
      obtain ⟨rfl, htail⟩ := List.cons.inj heq
      exact .inr ⟨before, rfl, htail⟩
  | token t =>
    obtain ⟨w, -, hwne, hw, rfl, -⟩ := zoned_at?_eq_some_iff.mp hps.1
    have hpiece : source [.token (timePlaceholder w)] = timePlaceholder w := List.append_nil _
    rw [hpiece]
    have hsplit : timePlaceholder w ++ source ps = before ++ (timePlaceholder zone ++ after) := by
      simpa [source] using heq
    rcases List.append_eq_append_iff.mp hsplit with ⟨rest, hbefore, hrest⟩ | ⟨s, hs, hafter⟩
    · exact .inr ⟨rest, hbefore, by simpa using hrest⟩
    · by_cases hsne : s = []
      · subst hsne
        exact .inr ⟨[], by simpa using hs.symm, by simpa using hafter.symm⟩
      · obtain ⟨rfl, hrest⟩ := ends_with_match hw hne hclose hsne hs hafter
        exact .inl ⟨w, rfl, hs, not_mem_front hw hs, hrest⟩

/-- A time placeholder that stands anywhere in a text is the end of a match. -/
theorem exists_match {ps : List Piece} (hps : (zoned fun _ => true).IsScan ps)
    {zone before after : List Char} (hne : zone ≠ []) (hclose : '}' ∉ zone)
    (heq : source ps = before ++ timePlaceholder zone ++ after) :
    ∃ front back w u, ps = front ++ .token (timePlaceholder w) :: back ∧
      before = source front ++ u ∧ timePlaceholder w = u ++ timePlaceholder zone ∧ '}' ∉ u ∧
        source back = after := by
  induction ps generalizing before with
  | nil => simp [timePlaceholder, source] at heq
  | cons piece ps ih =>
    rcases exists_match_cons hps hne hclose heq with ⟨w, rfl, hw, hu, hback⟩ | ⟨rest, rfl, hrest⟩
    · exact ⟨[], ps, w, before, rfl, rfl, hw, hu, hback⟩
    · obtain ⟨front, back, w, u, rfl, rfl, hw, hu, hback⟩ := ih (Matcher.isScan_of_cons _ hps) hrest
      refine ⟨piece :: front, back, w, u, rfl, ?_, hw, hu, hback⟩
      rw [← List.append_assoc, ← source_append, List.singleton_append]

/-- The zones named in a text are those of the time placeholders that a scan meets. -/
theorem mem_zonesFrom_iff {k : Nat} {cs zone : List Char} :
    zone ∈ zonesFrom k cs ↔
      .token (timePlaceholder zone) ∈ (zoned fun _ => true).piecesFrom k cs := by
  induction cs generalizing k with
  | nil => cases k <;> simp [zonesFrom, Matcher.piecesFrom]
  | cons c cs ih =>
    cases k with
    | succ k => simpa [zonesFrom, Matcher.piecesFrom] using ih
    | zero =>
      cases hz : zoneAt? (c :: cs) with
      | none =>
        have hat : (zoned fun _ => true).at? (c :: cs) = none := by simp [zoned, hz]
        simp [zonesFrom, Matcher.piecesFrom, hat, hz, ih]
      | some w =>
        have hat : (zoned fun _ => true).at? (c :: cs) = some (timePlaceholder w) := by
          simp [zoned, hz]
        have hinj : timePlaceholder zone = timePlaceholder w ↔ zone = w :=
          ⟨timePlaceholder_inj, congrArg _⟩
        simp [zonesFrom, Matcher.piecesFrom, hat, hz, ih, hinj]

theorem mem_zonesIn_iff {text zone : List Char} :
    zone ∈ zonesIn text ↔ .token (timePlaceholder zone) ∈ (zoned fun _ => true).pieces text := by
  rw [zonesIn, List.mem_eraseDups]
  exact mem_zonesFrom_iff

theorem zone_of_mem_zonesIn {text zone : List Char} (h : zone ∈ zonesIn text) :
    zone ≠ [] ∧ '}' ∉ zone := by
  obtain ⟨cs, hcs⟩ := (zoned fun _ => true).exists_at?_of_mem
    ((zoned fun _ => true).isScan_pieces text) (mem_zonesIn_iff.mp h)
  obtain ⟨w, -, hne, hclose, heq, -⟩ := zoned_at?_eq_some_iff.mp hcs
  rw [timePlaceholder_inj heq]
  exact ⟨hne, hclose⟩

end UptimeAlert.Template.ZonedTime
