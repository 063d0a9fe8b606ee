import UptimeAlert.Platform.Standard
import UptimeAlert.Proofs.Template.Block
import UptimeAlert.Proofs.Template.Failure
import UptimeAlert.Proofs.Template.Localization

namespace UptimeAlert.Template

open UptimeAlert.Text

inductive Marker where
  | opening (s : Status)
  | closing (s : Status)
  deriving DecidableEq, Repr

namespace Marker

def chars : Marker → List Char
  | .opening s => Block.opening s
  | .closing s => Block.closing s

def name : Marker → List Char
  | .opening s => Block.openName s
  | .closing s => Block.closeName s

theorem chars_eq (m : Marker) : m.chars = placeholder m.name := by
  cases m with
  | opening s => exact Block.opening_eq s
  | closing s => exact Block.closing_eq s

theorem braceFree_name (m : Marker) : BraceFree m.name := by
  cases m with
  | opening s => exact Block.braceFree_openName s
  | closing s => exact Block.braceFree_closeName s

theorem name_inj {m m' : Marker} (h : m.name = m'.name) : m = m' := by
  revert h
  rcases m with s | s <;> rcases m' with s' | s' <;> cases s <;> cases s' <;> decide

theorem name_ne_timeName (m : Marker) (zone : List Char) :
    ZonedTime.timeName zone ≠ m.name := by
  rcases m with s | s <;> cases s <;> simp [name, Block.openName, Block.closeName,
    ZonedTime.timeName]

end Marker

/-- Whether a name stands in a block marker or in a time placeholder. -/
def reserved (name : List Char) : Bool :=
  [Marker.opening .up, .closing .up, .opening .down, .closing .down].any (·.name == name) ||
    (['T', 'I', 'M', 'E', ':'].isPrefixOf name && name != ZonedTime.timeName [])

theorem reserved_marker (m : Marker) : reserved m.name = true := by
  rcases m with s | s <;> cases s <;> decide

theorem reserved_timeName {zone : List Char} (h : zone ≠ []) :
    reserved (ZonedTime.timeName zone) = true := by
  simp [reserved, ZonedTime.timeName, h]

inductive Lexeme where
  | text (cs : List Char) (plain : BraceFree cs)
  | time (zone : List Char) (given : zone ≠ []) (plain : BraceFree zone)
  | marker (m : Marker)
  | other (name : List Char) (plain : BraceFree name) (free : reserved name = false)

namespace Lexeme

/-- The characters of a lexeme. -/
def chars : Lexeme → List Char
  | .text cs _ => cs
  | .time zone _ _ => ZonedTime.timePlaceholder zone
  | .marker m => m.chars
  | .other name _ _ => placeholder name

def flatten (ls : List Lexeme) : List Char :=
  ls.flatMap chars

def isMarker (m : Marker) : Lexeme → Bool
  | .marker m' => m' = m
  | _ => false

/-- The lexemes before and after the first occurrence of a marker. -/
def splitFirst (m : Marker) : List Lexeme → Option (List Lexeme × List Lexeme)
  | [] => none
  | l :: ls =>
    if l.isMarker m then some ([], ls)
    else (splitFirst m ls).map fun (before, after) => (l :: before, after)

/-- Changes the inside of the first block of a verdict, if there is one, and drops its markers. -/
def changeBlock (s : Status) (f : List Lexeme → List Lexeme) (ls : List Lexeme) : List Lexeme :=
  match splitFirst (.opening s) ls with
  | none => ls
  | some (before, rest) =>
    match splitFirst (.closing s) rest with
    | none => ls
    | some (inside, after) => before ++ f inside ++ after

/-- The lexemes that are left for a verdict: without the first block of the other one, and without
the markers of the first of its own. -/
def visible (s : Status) (ls : List Lexeme) : List Lexeme :=
  changeBlock s id (changeBlock s.opposite (fun _ => []) ls)

theorem chars_cases (l : Lexeme) :
    BraceFree l.chars ∨ ∃ name, BraceFree name ∧ l.chars = placeholder name := by
  cases l with
  | text cs plain => exact .inl plain
  | time zone given plain =>
    exact .inr ⟨_, ZonedTime.braceFree_timeName plain, ZonedTime.timePlaceholder_eq zone⟩
  | marker m => exact .inr ⟨_, m.braceFree_name, m.chars_eq⟩
  | other name plain free => exact .inr ⟨name, plain, rfl⟩

theorem not_braceFree_placeholder (name : List Char) : ¬ BraceFree (placeholder name) :=
  fun h => h.1 List.mem_cons_self

/-- A lexeme is a marker exactly when it reads like one. -/
theorem isMarker_iff {m : Marker} {l : Lexeme} : l.isMarker m = true ↔ l.chars = m.chars := by
  rw [m.chars_eq]
  cases l with
  | text cs plain =>
    simp only [isMarker, chars, Bool.false_eq_true, false_iff]
    rintro rfl
    exact not_braceFree_placeholder _ plain
  | time zone given plain =>
    simp only [isMarker, chars, Bool.false_eq_true, false_iff, ZonedTime.timePlaceholder_eq]
    exact fun h => m.name_ne_timeName zone (placeholder_inj h)
  | marker m' =>
    simp only [isMarker, chars, decide_eq_true_eq, m'.chars_eq]
    exact ⟨fun h => h ▸ rfl, fun h => Marker.name_inj (placeholder_inj h)⟩
  | other name plain free =>
    simp only [isMarker, chars, Bool.false_eq_true, false_iff]
    intro h
    rw [placeholder_inj h, reserved_marker] at free
    cases free

/-- A search for a marker finds the first lexeme that is this marker. -/
theorem cut?_flatten (m : Marker) (ls : List Lexeme) :
    cut? m.chars (flatten ls) =
      (splitFirst m ls).map fun (before, after) => (flatten before, flatten after) := by
  induction ls with
  | nil => simp [flatten, splitFirst, cut?, m.chars_eq, placeholder, List.isPrefixOf?]
  | cons l ls ih =>
    have hcons : flatten (l :: ls) = l.chars ++ flatten ls := rfl
    rw [hcons, splitFirst]
    by_cases hl : l.isMarker m = true
    · rw [if_pos hl, isMarker_iff.mp hl, cut?_self]
      rfl
    · have havoid : Avoids m.chars l.chars (flatten ls) := by
        rw [m.chars_eq]
        rcases l.chars_cases with hplain | ⟨name, hname, heq⟩
        · exact avoids_plain hplain m.name _
        · have hne : m.name ≠ name := by
            rintro rfl
            exact hl (isMarker_iff.mpr (heq.trans m.chars_eq.symm))
          rw [heq]
          exact avoids_placeholder m.braceFree_name hname hne _
      rw [if_neg hl, cut?_append havoid, ih]
      cases splitFirst m ls <;> rfl

theorem flatten_append (ls ls' : List Lexeme) : flatten (ls ++ ls') = flatten ls ++ flatten ls' :=
  List.flatMap_append

/-- Changing the first block of a text is changing the first block of its lexemes. -/
theorem changeFirst_flatten (s : Status) {f : List Char → List Char}
    {g : List Lexeme → List Lexeme} (hfg : ∀ ls, f (flatten ls) = flatten (g ls))
    (ls : List Lexeme) : Block.changeFirst s f (flatten ls) = flatten (changeBlock s g ls) := by
  have hopen := cut?_flatten (.opening s) ls
  unfold Block.changeFirst changeBlock
  cases ho : splitFirst (.opening s) ls with
  | none =>
    rw [ho] at hopen
    simp only [Marker.chars, Option.map_none] at hopen
    simp [hopen]
  | some parts =>
    obtain ⟨before, rest⟩ := parts
    have hclose := cut?_flatten (.closing s) rest
    rw [ho] at hopen
    simp only [Marker.chars, Option.map_some] at hopen hclose
    cases hc : splitFirst (.closing s) rest with
    | none => simp [hopen, hclose, hc]
    | some parts => simp [hopen, hclose, hc, hfg, flatten_append]

theorem resolve_flatten (s : Status) (ls : List Lexeme) :
    Block.resolve s (flatten ls) = flatten (visible s ls) := by
  rw [Block.resolve, Block.remove, Block.unwrap,
    changeFirst_flatten s.opposite (g := fun _ => []) (fun _ => rfl),
    changeFirst_flatten s (g := id) fun _ => rfl]
  rfl

/-- A scan takes or passes over whole lexemes. -/
theorem assemble_flatten {m : Matcher} (hm : m.Braced) (f : List Char → List Char)
    (ls : List Lexeme) :
    assemble f (m.pieces (flatten ls)) =
      ls.flatMap fun l => if (m.at? l.chars).isSome then f l.chars else l.chars := by
  induction ls with
  | nil => rfl
  | cons l ls ih =>
    have hcons : flatten (l :: ls) = l.chars ++ flatten ls := rfl
    rw [hcons, List.flatMap_cons, ← ih]
    rcases l.chars_cases with hplain | ⟨name, hname, heq⟩
    · simp [hm.pieces_plain hplain, hm.at?_plain hplain]
    · rw [heq, hm.pieces_placeholder hname]
      by_cases h : (m.at? (placeholder name)).isSome <;> simp [h]

theorem zoned_pieces_flatten (keep : List Char → Bool) (l : Lexeme) (ls : List Lexeme) :
    (ZonedTime.zoned keep).pieces (flatten (l :: ls)) =
      (ZonedTime.zoned keep).pieces l.chars ++ (ZonedTime.zoned keep).pieces (flatten ls) := by
  change (ZonedTime.zoned keep).pieces (l.chars ++ flatten ls) = _
  rcases l.chars_cases with hplain | ⟨name, hname, heq⟩
  · have hpass (y : List Char) : (ZonedTime.zoned keep).pieces (l.chars ++ y) =
        l.chars.map .literal ++ (ZonedTime.zoned keep).pieces y :=
      ZonedTime.zoned_pieces_literals keep (avoids_of_not_mem hplain.1)
    have hown := hpass []
    rw [List.append_nil, Matcher.pieces_nil, List.append_nil] at hown
    rw [hpass, hown]
  · have hsplit : placeholder name = '{' :: '{' :: name ++ ['}', '}'] := rfl
    rw [heq, hsplit]
    exact ZonedTime.pieces_append_close keep _ _

/-- The zone of a time lexeme is found in the text, whatever stands around it. -/
theorem mem_zonesIn_flatten {ls : List Lexeme} {zone : List Char} {given : zone ≠ []}
    {plain : BraceFree zone} (h : .time zone given plain ∈ ls) :
    zone ∈ ZonedTime.zonesIn (flatten ls) := by
  rw [ZonedTime.mem_zonesIn_iff]
  induction ls with
  | nil => cases h
  | cons l ls ih =>
    rw [zoned_pieces_flatten]
    rcases List.mem_cons.mp h with rfl | hmem
    · have hhit : (ZonedTime.zoned fun _ => true).at? (ZonedTime.timePlaceholder zone ++ []) =
          some (ZonedTime.timePlaceholder zone) :=
        ZonedTime.zoned_at?_timePlaceholder rfl given plain.2 []
      have htoken := Matcher.pieces_token _ hhit
      rw [List.append_nil] at htoken
      exact List.mem_append_left _ (htoken ▸ List.mem_cons_self)
    · exact List.mem_append_right _ (ih hmem)

/-- What is written for a lexeme once its time is written. -/
def put (d : Dictionary) (missing : List Char) (l : Lexeme) : List Char :=
  if l.chars ∈ d.tokens then d.valueText missing l.chars else l.chars

/-- Tokens are put in lexeme by lexeme: none reaches over the end of one. -/
theorem substitute_flatten {m : Option Monitor} {h : Option Heartbeat} {d : Dictionary}
    (hd : Dictionary.build m h = .ok d) (missing : List Char) (ls : List Lexeme) :
    d.substitute missing (flatten ls) = ls.flatMap (put d missing) := by
  have htokens := Dictionary.tokens_build hd
  rw [Renderer.substitute_eq_assemble hd, assemble_flatten htokens.braced]
  refine List.flatMap_congr fun l _ => ?_
  have hiff : ((Matcher.ofTokens d.tokens).at? l.chars).isSome ↔ l.chars ∈ d.tokens := by
    rcases l.chars_cases with hplain | ⟨name, hname, heq⟩
    · rw [htokens.braced.at?_plain hplain]
      simp only [Option.isSome_none, Bool.false_eq_true, false_iff]
      intro hmem
      obtain ⟨name, -, heq⟩ := htokens _ hmem
      exact not_braceFree_placeholder name (heq ▸ hplain)
    · rw [heq]
      exact htokens.at?_placeholder hname
  simp only [put, hiff]

/-- A lexeme that reads like a token of a dictionary is the placeholder of neither a block nor a
time. -/
theorem other_of_mem_tokens {m : Option Monitor} {h : Option Heartbeat} {d : Dictionary}
    (hd : Dictionary.build m h = .ok d) {l : Lexeme} (hl : l.chars ∈ d.tokens) :
    ∃ name plain free, l = .other name plain free := by
  obtain ⟨name, hname, heq⟩ := Dictionary.name_of_mem_tokens hd hl
  cases l with
  | text cs plain =>
    subst heq
    exact absurd plain (not_braceFree_placeholder _)
  | time zone given plain =>
    have hfree : ∀ name ∈ Dictionary.defaultNames ++ Dictionary.monitorNames ++
        Dictionary.heartbeatNames, ¬ ['T', 'I', 'M', 'E', ':'] <+: name.toList := by decide
    rw [chars, ZonedTime.timePlaceholder_eq] at heq
    exact absurd ⟨zone, placeholder_inj heq⟩ (hfree name hname)
  | marker m =>
    have hfree : ∀ name ∈ Dictionary.defaultNames ++ Dictionary.monitorNames ++
        Dictionary.heartbeatNames, m.name ≠ name.toList := by
      rcases m with s | s <;> cases s <;> decide
    rw [chars, m.chars_eq] at heq
    exact absurd (placeholder_inj heq) (hfree name hname)
  | other name plain free => exact ⟨name, plain, free, rfl⟩

section

variable [Platform]

/-- What is written for a lexeme: the time of a zone where it can be shown, the value of a token,
and otherwise the lexeme itself. -/
def value (d : Dictionary) (missing : List Char) (instant : Option Instant) : Lexeme → List Char
  | .text cs _ => cs
  | .time zone _ _ =>
    (instant.bind (ZonedTime.show? · zone)).getD (ZonedTime.timePlaceholder zone)
  | .marker m => m.chars
  | .other name _ _ =>
    if placeholder name ∈ d.tokens then d.valueText missing (placeholder name)
    else placeholder name

/-- What is written for a template, given the verdict and the instant of the heartbeat, if there is
one. -/
def evaluate (d : Dictionary) (missing : List Char) (heartbeat : Option (Status × Option Instant))
    (ls : List Lexeme) : List Char :=
  match heartbeat with
  | none => ls.flatMap (value d missing none)
  | some (s, instant) => (visible s ls).flatMap (value d missing instant)

/-- The time of a zone as a text, if it can be shown. -/
def shown (i : Instant) (zone : List Char) (given : zone ≠ []) (plain : BraceFree zone) : Lexeme :=
  match h : ZonedTime.show? i zone with
  | some t => .text t (ZonedTime.time_of_show? h).1
  | none => .time zone given plain

/-- A lexeme after the times of an instant are written. -/
def localized (i : Instant) : Lexeme → Lexeme
  | .time zone given plain => shown i zone given plain
  | l => l

theorem chars_shown (i : Instant) {zone : List Char} (given : zone ≠ []) (plain : BraceFree zone) :
    (shown i zone given plain).chars =
      (ZonedTime.show? i zone).getD (ZonedTime.timePlaceholder zone) := by
  unfold shown
  split
  · next t h => simp [chars, h]
  · next h => simp [chars, h]

theorem isMarker_shown (i : Instant) (m : Marker) {zone : List Char} (given : zone ≠ [])
    (plain : BraceFree zone) : (shown i zone given plain).isMarker m = false := by
  unfold shown
  split <;> rfl

/-- A lexeme is written as the scan for zones takes it or passes over it, where its own zone is kept
if it can be shown. -/
theorem stamp_eq_localized {i : Instant} {keep : List Char → Bool}
    (hkeep : ∀ zone, keep zone = true → BraceFree zone) {l : Lexeme}
    (hl : ∀ zone given plain, l = .time zone given plain → (ZonedTime.show? i zone).isSome →
      keep zone = true) :
    (if ((ZonedTime.zoned keep).at? l.chars).isSome then ZonedTime.stamp i l.chars else l.chars) =
      (localized i l).chars := by
  cases l with
  | text cs plain => simp [chars, localized, (ZonedTime.zoned_braced hkeep).at?_plain plain]
  | time zone given plain =>
    rw [localized, chars_shown]
    cases hshow : ZonedTime.show? i zone with
    | some t =>
      have hzone := hl zone given plain rfl (by simp [hshow])
      have hhit := ZonedTime.zoned_at?_timePlaceholder hzone given plain.2 []
      rw [List.append_nil] at hhit
      simp [chars, hhit, ZonedTime.stamp_of_show? hshow]
    | none =>
      have hstay : ZonedTime.stamp i (ZonedTime.timePlaceholder zone) =
          ZonedTime.timePlaceholder zone := by
        simp [ZonedTime.stamp, ZonedTime.zoneAt?_timePlaceholder given plain.2, hshow]
      simp [chars, hstay]
  | marker m =>
    have hnone := ZonedTime.zoned_at?_placeholder_eq_none m.braceFree_name hkeep
      fun zone _ => m.name_ne_timeName zone
    simp [chars, localized, m.chars_eq, hnone]
  | other name plain free =>
    have hname (zone : List Char) (hne : zone ≠ []) : ZonedTime.timeName zone ≠ name := by
      rintro rfl
      rw [reserved_timeName hne] at free
      cases free
    simp [chars, localized, ZonedTime.zoned_at?_placeholder_eq_none plain hkeep hname]

/-- The times of a template are written lexeme by lexeme. -/
theorem localize_flatten (i : Instant) (ls : List Lexeme) :
    ZonedTime.localize i (flatten ls) = flatten (ls.map (localized i)) := by
  have hkeep (zone : List Char) (h : ZonedTime.isWritten i (flatten ls) zone = true) :
      BraceFree zone :=
    ZonedTime.braceFree_of_show? (ZonedTime.isSome_of_isWritten h)
  have hmap : flatten (ls.map (localized i)) = ls.flatMap fun l => (localized i l).chars :=
    List.flatMap_map ..
  rw [ZonedTime.localize_eq, assemble_flatten (ZonedTime.zoned_braced hkeep), hmap]
  refine List.flatMap_congr fun l hl => stamp_eq_localized hkeep ?_
  intro zone given plain heq hshow
  rw [ZonedTime.isWritten_iff]
  exact ⟨hshow, mem_zonesIn_flatten (heq ▸ hl)⟩

theorem isMarker_localized (i : Instant) (m : Marker) (l : Lexeme) :
    (localized i l).isMarker m = l.isMarker m := by
  cases l with
  | time zone given plain => exact isMarker_shown i m given plain
  | _ => rfl

theorem splitFirst_map_localized (i : Instant) (m : Marker) (ls : List Lexeme) :
    splitFirst m (ls.map (localized i)) =
      (splitFirst m ls).map fun (before, after) =>
        (before.map (localized i), after.map (localized i)) := by
  induction ls with
  | nil => rfl
  | cons l ls ih =>
    rw [List.map_cons, splitFirst, splitFirst, isMarker_localized, ih]
    split
    · rfl
    · cases splitFirst m ls <;> rfl

theorem changeBlock_map_localized (i : Instant) (s : Status) {f : List Lexeme → List Lexeme}
    (hf : ∀ ls, f (ls.map (localized i)) = (f ls).map (localized i)) (ls : List Lexeme) :
    changeBlock s f (ls.map (localized i)) = (changeBlock s f ls).map (localized i) := by
  unfold changeBlock
  rw [splitFirst_map_localized]
  cases splitFirst (.opening s) ls with
  | none => rfl
  | some parts =>
    simp only [Option.map_some]
    rw [splitFirst_map_localized]
    cases splitFirst (.closing s) parts.2 with
    | none => rfl
    | some inner => simp [hf]

/-- Writing times neither makes nor breaks a block. -/
theorem visible_map_localized (i : Instant) (s : Status) (ls : List Lexeme) :
    visible s (ls.map (localized i)) = (visible s ls).map (localized i) := by
  rw [visible, visible, changeBlock_map_localized i s.opposite (f := fun _ => []) fun _ => rfl,
    changeBlock_map_localized i s (f := id) fun _ => rfl]

theorem put_eq_value {m : Option Monitor} {h : Option Heartbeat} {d : Dictionary}
    (hd : Dictionary.build m h = .ok d) (missing : List Char) (l : Lexeme) :
    put d missing l = value d missing none l := by
  by_cases hl : l.chars ∈ d.tokens
  · obtain ⟨name, plain, free, rfl⟩ := other_of_mem_tokens hd hl
    rfl
  · rw [put, if_neg hl]
    cases l with
    | other name plain free => exact (if_neg hl).symm
    | _ => rfl

/-- Putting a lexeme in after its time gives its value at that instant. -/
theorem put_localized {m : Option Monitor} {h : Option Heartbeat} {d : Dictionary}
    (hd : Dictionary.build m h = .ok d) (missing : List Char) (i : Instant) (l : Lexeme) :
    put d missing (localized i l) = value d missing (some i) l := by
  cases l with
  | time zone given plain =>
    rw [put_eq_value hd, localized]
    unfold shown
    split
    · next t h => simp [value, h]
    · next h => simp [value, h]
  | _ => exact put_eq_value hd missing _

/-- What rendering reads of a heartbeat with a verdict: the verdict, and the instant if the time
reads as one. -/
def verdict (h : Heartbeat) : Option (Status × Option Instant) :=
  (Status.ofValue? h.status).map fun s => (s, Heartbeat.instantOf? h.time)

/-- Expanding a sequence of lexemes leaves lexemes, which are written one by one. -/
theorem expandHeartbeat_flatten {monitor : Option Monitor} {heartbeat : Option Heartbeat}
    {d : Dictionary} (hd : Dictionary.build monitor heartbeat = .ok d)
    (hh : ∀ h ∈ heartbeat, (Status.ofValue? h.status).isSome ∧ h.time.isWritable = true)
    (missing : List Char) (ls : List Lexeme) :
    ∃ left, Renderer.expandHeartbeat heartbeat (flatten ls) = .ok (flatten left) ∧
      left.flatMap (put d missing) = evaluate d missing (heartbeat.bind verdict) ls := by
  cases heartbeat with
  | none => exact ⟨ls, rfl, List.flatMap_congr fun l _ => put_eq_value hd missing l⟩
  | some h =>
    obtain ⟨hstatus, htime⟩ := hh h rfl
    obtain ⟨s, hs⟩ := Option.isSome_iff_exists.mp hstatus
    have hverdict : (some h).bind verdict = some (s, Heartbeat.instantOf? h.time) := by
      simp [verdict, hs]
    rw [Renderer.expandHeartbeat_of_status hs, Value.ifWritable_of_isWritable htime,
      Renderer.localizeTimes, hverdict]
    cases hi : Heartbeat.instantOf? h.time with
    | none =>
      refine ⟨visible s ls, by rw [← resolve_flatten], ?_⟩
      exact List.flatMap_congr fun l _ => put_eq_value hd missing l
    | some i =>
      refine ⟨(visible s ls).map (localized i), ?_, ?_⟩
      · rw [← visible_map_localized, ← resolve_flatten, ← localize_flatten]
      · rw [List.flatMap_map]
        exact List.flatMap_congr fun l _ => put_localized hd missing i l

/-- Rendering a sequence of lexemes evaluates it lexeme by lexeme, unless a field is too long to be
written. -/
theorem render_flatten (r : Renderer) (ls : List Lexeme) (monitor : Option Monitor)
    (heartbeat : Option Heartbeat) (hm : ∀ m ∈ monitor, m.type.isSimple = true)
    (hh : ∀ h ∈ heartbeat, (Status.ofValue? h.status).isSome) :
    (PartsWritable monitor heartbeat → ∃ d, Dictionary.build monitor heartbeat = .ok d ∧
      r.render (String.ofList (flatten ls)) monitor heartbeat =
        .ok (String.ofList (evaluate d r.missing.toList (heartbeat.bind verdict) ls))) ∧
    (¬ PartsWritable monitor heartbeat →
      r.render (String.ofList (flatten ls)) monitor heartbeat =
        .error (.fault .tooManyDigits)) := by
  constructor
  · intro hparts
    have hready : ∀ h ∈ heartbeat, (Status.ofValue? h.status).isSome ∧ h.time.isWritable = true :=
      fun h hmem => ⟨hh h hmem, hparts.time h hmem⟩
    obtain ⟨d, hd⟩ := Dictionary.exists_build hm hready
    obtain ⟨left, hexpand, hvalue⟩ := expandHeartbeat_flatten hd hready r.missing.toList ls
    refine ⟨d, hd, Renderer.render_eq_ok_iff.mpr ⟨flatten left, d, ?_, hd, hparts, ?_⟩⟩
    · rw [String.toList_ofList]
      exact hexpand
    · rw [substitute_flatten hd, hvalue]
  · intro hparts
    exact Renderer.render_of_not_partsWritable
      (fun h hmem => Value.isVerdict_iff.mpr (hh h hmem)) hm hparts

end

/-- Two blocks that interleave, a known zone and an unknown one. -/
theorem render_flatten_interleaved :
    let ls : List Lexeme :=
      [.marker (.opening .up), .text ['a'] (by decide), .marker (.opening .down),
        .marker (.opening .up), .other "NAME".toList (by decide) (by decide),
        .marker (.closing .up), .time "UTC".toList (by decide) (by decide),
        .marker (.closing .down), .time "Nowhere".toList (by decide) (by decide)]
    let m : Monitor := ⟨.null, .text (token "MSG"), .text "http", .null, .null, .null, .null⟩
    let h : Heartbeat :=
      ⟨.text "2024-01-02 03:04:05", .text "down", .null, .null, .null, .null, .null⟩
    ∃ d, Dictionary.build (some m) (some h) = .ok d ∧
      (Renderer.mk "").render (String.ofList (flatten ls)) (some m) (some h) =
        .ok (String.ofList (evaluate d [] ((some h).bind verdict) ls)) :=
  (render_flatten ⟨""⟩ _ _ _ (by rintro m ⟨⟩; rfl) (by rintro h ⟨⟩; rfl)).1 (by decide)

end Lexeme

end UptimeAlert.Template
