import UptimeAlert.Proofs.Calendar.FormReader

namespace UptimeAlert.Calendar.Reader

open UptimeAlert.Text

variable {s t : List UInt8} {p stop : Nat}

theorem byteAt_append (h : p < s.length) : byteAt (s ++ t) p = byteAt s p := by
  rw [byteAt, byteAt, List.getD_eq_getElem?_getD, List.getD_eq_getElem?_getD,
    List.getElem?_append_left h]

theorem lt_length_of_byteAt {b : UInt8} (h : byteAt s p = b) (hb : b ≠ 0) : p < s.length := by
  by_contra hpast
  exact hb (h ▸ byteAt_past (Nat.le_of_not_lt hpast))

theorem lt_length_of_isDigitByte (h : isDigitByte (byteAt s p) = true) : p < s.length := by
  refine lt_length_of_byteAt rfl fun hzero => ?_
  rw [hzero] at h
  exact absurd h (by decide)

theorem number?_succ_eq_some_iff {count n : Nat} :
    number? s p (count + 1) = some n ↔ ∃ k, number? s p count = some k ∧
      isDigitByte (byteAt s (p + count)) = true ∧
      10 * k + ((byteAt s (p + count)).toNat - 48) = n := by
  rw [number?]
  cases number? s p count <;> simp

theorem isDigitByte_of_number? {count n i : Nat} (h : number? s p count = some n) (hi : i < count) :
    isDigitByte (byteAt s (p + i)) = true := by
  induction count generalizing n with
  | zero => exact absurd hi (Nat.not_lt_zero _)
  | succ count ih =>
    obtain ⟨k, hk, hdigit, -⟩ := number?_succ_eq_some_iff.mp h
    rcases Nat.lt_succ_iff_lt_or_eq.mp hi with hlt | rfl
    · exact ih hk hlt
    · exact hdigit

theorem number?_append {count n : Nat} (h : number? s p count = some n) :
    number? (s ++ t) p count = some n := by
  induction count generalizing n with
  | zero => exact h
  | succ count ih =>
    obtain ⟨k, hk, hdigit, hn⟩ := number?_succ_eq_some_iff.mp h
    rw [number?_succ_eq_some_iff, byteAt_append (lt_length_of_isDigitByte hdigit)]
    exact ⟨k, ih hk, hdigit, hn⟩

theorem length_of_number? {count n : Nat} (h : number? s p (count + 1) = some n) :
    p + count < s.length :=
  lt_length_of_isDigitByte (isDigitByte_of_number? h (Nat.lt_succ_self count))

theorem countDigits_append (ht : isDigitByte (byteAt t 0) = false) :
    countDigits (s ++ t) = countDigits s := by
  have hnone : t.takeWhile isDigitByte = [] := by
    have hcount := countDigits_drop (p := 0) ht
    exact List.length_eq_zero_iff.mp hcount
  rw [countDigits, countDigits, List.takeWhile_append, hnone]
  split <;> simp_all

section Date

theorem length_of_dateEnd? (h : dateEnd? s = some stop) :
    7 ≤ s.length ∧ (s.length = 7 → stop = 7) := by
  by_cases hshort : s.length < 7
  · simp [dateEnd?, hshort] at h
  · refine ⟨Nat.le_of_not_lt hshort, fun hseven => ?_⟩
    simpa [dateEnd?, hseven, eq_comm] using h

/-- Where the date ends does not depend on what is put behind the time of day. -/
theorem dateEnd?_append (h : dateEnd? s = some stop) (hlong : stop + 2 < s.length)
    (ht : isDigitByte (byteAt t 0) = false) : dateEnd? (s ++ t) = some stop := by
  obtain ⟨hseven, hexact⟩ := length_of_dateEnd? h
  have hlength : ¬ s.length < 7 ∧ s.length ≠ 7 := by omega
  have hlength' : ¬ s.length + t.length < 7 ∧ s.length + t.length ≠ 7 := by omega
  have hfourth : byteAt (s ++ t) 4 = byteAt s 4 := byteAt_append (by omega)
  have hfifth : byteAt (s ++ t) 5 = byteAt s 5 := byteAt_append (by omega)
  have hdigits : countDigits ((s ++ t).drop 7) = countDigits (s.drop 7) := by
    rw [List.drop_append_of_le_length hseven, countDigits_append ht]
  simp only [dateEnd?, List.length_append, hlength, hlength', hfourth, hfifth, hdigits, if_false]
    at h ⊢
  by_cases hextended : byteAt s 4 = code '-' ∧ byteAt s 5 = code 'W'
  · -- A week date with hyphens is long enough for the two further bytes that are looked at.
    rw [if_pos hextended.1, if_pos hextended.2] at h ⊢
    have heleven : 10 < s.length := by
      split at h
      · split at h
        · cases h
        · split at h
          · simp_all
          · obtain rfl := Option.some.inj h
            omega
      · obtain rfl := Option.some.inj h
        omega
    have heighth : byteAt (s ++ t) 8 = byteAt s 8 := byteAt_append (by omega)
    have htenth : byteAt (s ++ t) 10 = byteAt s 10 := byteAt_append heleven
    have hmore : 8 < s.length ∧ s.length ≠ 9 ∧ 8 < s.length + t.length ∧
        s.length + t.length ≠ 9 ∧ 10 < s.length + t.length := by omega
    simpa [hmore, heighth, htenth, heleven] using h
  · simp_all

theorem skipHyphen?_append {extended : Bool} {q : Nat} (h : skipHyphen? extended s p = some q) :
    skipHyphen? extended (s ++ t) p = some q := by
  cases extended with
  | false => exact h
  | true =>
    by_cases hhyphen : byteAt s p = code '-'
    · have hp := lt_length_of_byteAt hhyphen (by decide)
      simpa [skipHyphen?, byteAt_append hp, hhyphen] using h
    · simp [skipHyphen?, hhyphen] at h

theorem weekDate?_append {extended : Bool} {year days : Nat}
    (h : weekDate? extended year s p stop = some days) :
    weekDate? extended year (s ++ t) p stop = some days := by
  simp only [weekDate?, Option.bind_eq_bind, Option.bind_eq_some_iff] at h ⊢
  obtain ⟨week, hweek, hrest⟩ := h
  refine ⟨week, number?_append hweek, ?_⟩
  by_cases hmore : p + 2 < stop
  · simp only [if_pos hmore, Option.bind_eq_some_iff] at hrest ⊢
    obtain ⟨q, hq, day, hday, hdays⟩ := hrest
    exact ⟨q, skipHyphen?_append hq, day, number?_append hday, hdays⟩
  · rwa [if_neg hmore] at hrest ⊢

theorem calendarDate?_append {extended : Bool} {year days : Nat}
    (h : calendarDate? extended year s p = some days) :
    calendarDate? extended year (s ++ t) p = some days := by
  simp only [calendarDate?, Option.bind_eq_bind, Option.bind_eq_some_iff] at h ⊢
  obtain ⟨month, hmonth, q, hq, day, hday, hdays⟩ := h
  exact ⟨month, number?_append hmonth, q, skipHyphen?_append hq, day, number?_append hday, hdays⟩

/-- A date that was read is read again when more text follows it. -/
theorem date?_append {days : Nat} (hlong : 5 < s.length) (h : date? s stop = some days) :
    date? (s ++ t) stop = some days := by
  have hfourth : byteAt (s ++ t) 4 = byteAt s 4 := byteAt_append (by omega)
  simp only [date?, Option.bind_eq_bind, Option.bind_eq_some_iff, hfourth] at h ⊢
  obtain ⟨year, hyear, hdate⟩ := h
  refine ⟨year, number?_append hyear, ?_⟩
  have hp : (if byteAt s 4 = code '-' then 5 else 4) < s.length := by split <;> omega
  generalize (if byteAt s 4 = code '-' then 5 else 4) = p at hdate hp ⊢
  rw [byteAt_append hp]
  by_cases hweek : byteAt s p = code 'W'
  · rw [if_pos hweek] at hdate ⊢
    exact weekDate?_append hdate
  · rw [if_neg hweek] at hdate ⊢
    exact calendarDate?_append hdate

end Date

section Clock

/-- Two readings of what follows a pair of digits that differ at most in what is left over. -/
inductive Follow.Like : Follow → Follow → Prop
  | same (f : Follow) : Like f f
  | done (leftOver leftOver' : Bool) : Like (.done leftOver) (.done leftOver')

theorem follow?_append {colons colons' : Bool} {f : Follow} (hstop : stop ≤ s.length)
    (hcolons : p + 1 < stop → colons' = colons) (h : follow? s stop colons p = some f) :
    ∃ g, follow? (s ++ t) stop colons' p = some g ∧ f.Like g := by
  by_cases hend : stop ≤ p + 1
  · rw [follow?_done _ hend] at h ⊢
    obtain rfl := Option.some.inj h
    exact ⟨_, rfl, .done _ _⟩
  · have hp : p < s.length := by omega
    rw [hcolons (by omega), follow?, byteAt_append hp]
    exact ⟨f, h, .same f⟩

theorem lt_of_follow?_pair {colons : Bool} {q : Nat}
    (h : follow? s stop colons p = some (.pair q)) : p + 1 < stop := by
  by_contra hend
  rw [follow?_done _ (by omega)] at h
  cases h

theorem fraction?_append {micro : Nat} {leftOver : Bool}
    (h : fraction? s p stop = some (micro, leftOver)) :
    ∃ leftOver', fraction? (s ++ t) p stop = some (micro, leftOver') := by
  simp only [fraction?, Option.bind_eq_bind, Option.bind_eq_some_iff, Option.some.injEq,
    Prod.mk.injEq] at h ⊢
  obtain ⟨n, hn, hmicro, -⟩ := h
  exact ⟨_, n, number?_append hn, hmicro, rfl⟩

/-- Text after the end of a time of day does not change its fraction of a second. -/
theorem finish?_append {f g : Follow} {micro : Nat} {leftOver : Bool} (hlike : f.Like g)
    (h : finish? s stop f = some (micro, leftOver)) :
    ∃ leftOver', finish? (s ++ t) stop g = some (micro, leftOver') := by
  cases hlike with
  | same =>
    cases f with
    | done => exact ⟨_, h⟩
    | pair q => exact fraction?_append h
    | fraction q => exact fraction?_append h
  | done =>
    simp only [finish?, Option.some.injEq, Prod.mk.injEq] at h ⊢
    exact ⟨_, h.1, rfl⟩

/-- The time of day up to an end is the same in a longer text. -/
theorem clock?_append {clock : Clock} {leftOver : Bool} (hstop : stop ≤ s.length)
    (h : clock? s p stop = some (clock, leftOver)) :
    ∃ leftOver', clock? (s ++ t) p stop = some (clock, leftOver') := by
  -- The byte that tells whether there are colons may stand at the end, but counts before it only.
  have hcolons : p + 2 + 1 < stop →
      decide (byteAt (s ++ t) (p + 2) = code ':') = decide (byteAt s (p + 2) = code ':') := by
    intro hmore
    rw [byteAt_append (by omega)]
  have hfinish {f g : Follow} {hour minute second : Nat} (hlike : f.Like g)
      (h : (finish? s stop f).bind (fun last => some (⟨hour, minute, second, last.1⟩, last.2)) =
        some (clock, leftOver)) :
      ∃ leftOver', (finish? (s ++ t) stop g).bind
        (fun last => some (⟨hour, minute, second, last.1⟩, last.2)) = some (clock, leftOver') := by
    obtain ⟨⟨micro, rest⟩, hlast, hclock⟩ := Option.bind_eq_some_iff.mp h
    obtain ⟨rest', hlast'⟩ := finish?_append (t := t) hlike hlast
    simp only [Option.some.injEq, Prod.mk.injEq] at hclock
    exact ⟨rest', by rw [hlast', Option.bind_some, ← hclock.1]⟩
  simp only [clock?, Option.bind_eq_bind] at h ⊢
  obtain ⟨hour, hhour, f, hf, h⟩ := by simpa only [Option.bind_eq_some_iff] using h
  obtain ⟨g, hg, hlike⟩ := follow?_append (t := t) hstop hcolons hf
  simp only [number?_append hhour, hg, Option.bind_some]
  cases hlike with
  | done => exact hfinish (.done _ _) h
  | same =>
    cases f with
    | done => exact hfinish (.same _) h
    | fraction => exact hfinish (.same _) h
    | pair q =>
      rw [hcolons (lt_of_follow?_pair hf)]
      obtain ⟨minute, hminute, f, hf', h⟩ := by simpa only [Option.bind_eq_some_iff] using h
      obtain ⟨g, hg', hlike⟩ := follow?_append (t := t) hstop (fun _ => rfl) hf'
      simp only [number?_append hminute, hg', Option.bind_some]
      cases hlike with
      | done => exact hfinish (.done _ _) h
      | same =>
        cases f with
        | done => exact hfinish (.same _) h
        | fraction => exact hfinish (.same _) h
        | pair r =>
          obtain ⟨second, hsecond, f, hf'', h⟩ := by simpa only [Option.bind_eq_some_iff] using h
          obtain ⟨g, hg'', hlike⟩ := follow?_append (t := t) hstop (fun _ => rfl) hf''
          simp only [number?_append hsecond, hg'', Option.bind_some]
          exact hfinish hlike (Option.bind_eq_some_iff.mpr h)

/-- A time of day without an offset takes up the whole text. -/
theorem eq_length_of_time? {clock : Clock} (h : time? s p = some (clock, none)) :
    p + ((s.drop p).takeWhile fun b => !opensOffset b).length = s.length ∧
      clock? s p s.length = some (clock, false) := by
  unfold time? at h
  simp only [Option.bind_eq_bind, Option.bind_eq_some_iff, Prod.exists] at h
  obtain ⟨clock', leftOver, hclock, h⟩ := h
  split at h
  case isTrue hstop =>
    rw [hstop] at hclock
    cases leftOver with
    | true => cases h
    | false => exact ⟨hstop, (Prod.mk.inj (Option.some.inj h)).1 ▸ hclock⟩
  case isFalse =>
    obtain ⟨_, -, hnone⟩ := Option.bind_eq_some_iff.mp h
    cases hnone

/-- A time without an offset is read with the offset that is put after it. -/
theorem time?_append {clock : Clock} {o : Offset} (h : time? s p = some (clock, none))
    (ht : opensOffset (byteAt t 0) = true) (ho : offset? (s ++ t) s.length = some o) :
    time? (s ++ t) p = some (clock, some o) := by
  obtain ⟨hstop, hclock⟩ := eq_length_of_time? h
  obtain ⟨b, t, rfl⟩ : ∃ b t', t = b :: t' := by
    cases t with
    | nil => exact absurd ht (by decide)
    | cons b t => exact ⟨b, t, rfl⟩
  have hb : opensOffset b = true := ht
  -- The time of day took up the whole text, and the first byte behind it ends it there.
  have hwhole : (s.drop p).takeWhile (fun b => !opensOffset b) = s.drop p := by
    refine (List.takeWhile_prefix _).eq_of_length ?_
    rw [List.length_drop]
    omega
  have hstop' : p + (((s ++ b :: t).drop p).takeWhile fun b => !opensOffset b).length =
      s.length := by
    rw [List.drop_append_of_le_length (by omega), List.takeWhile_append_of_pos
      (List.takeWhile_eq_self_iff.mp hwhole), List.takeWhile_cons_of_neg (by simp [hb]),
      List.append_nil, List.length_drop]
    omega
  obtain ⟨leftOver, hclock'⟩ := clock?_append (t := b :: t) (Nat.le_refl _) hclock
  have hmore : s.length ≠ (s ++ b :: t).length := by simp
  unfold time?
  simp only [hstop', hclock', Option.bind_eq_bind, Option.bind_some, if_neg hmore, ho]

end Clock

/-- A date-time with a time of day and no offset takes the offset that is put behind it. -/
theorem readBytes?_append {wall : WallTime} {o : Offset} (h : readBytes? s = some ⟨wall, none⟩)
    (hdate : dateEnd? s = some stop) (htime : stop < s.length)
    (ht : opensOffset (byteAt t 0) = true) (ho : offset? (s ++ t) s.length = some o) :
    readBytes? (s ++ t) = some ⟨wall, some o⟩ := by
  have hmore : ¬ s.length ≤ stop := by omega
  simp only [readBytes?, hdate, if_neg hmore, Option.bind_eq_bind, Option.bind_some,
    Option.bind_eq_some_iff, Prod.exists, Option.some.injEq, Moment.mk.injEq] at h
  obtain ⟨days, hdays, clock, _, hclock, wall, hwall, rfl, rfl⟩ := h
  have hhour : stop + widthAt (byteAt s stop) + 1 < s.length := by
    have hread := (eq_length_of_time? hclock).2
    simp only [clock?, Option.bind_eq_bind, Option.bind_eq_some_iff] at hread
    obtain ⟨hour, hhour, -⟩ := hread
    exact length_of_number? hhour
  have hwidth : 1 ≤ widthAt (byteAt s stop) := by
    unfold widthAt
    split_ifs <;> decide
  have hdigit : isDigitByte (byteAt t 0) = false := by
    cases hd : isDigitByte (byteAt t 0) with
    | false => rfl
    | true =>
      have hplus := ne_mark hd (c := '+') (by decide)
      have hminus := ne_mark hd (c := '-') (by decide)
      have hzulu := ne_mark hd (c := 'Z') (by decide)
      simp [opensOffset, hplus, hminus, hzulu] at ht
  have hseven := (length_of_dateEnd? hdate).1
  have hmore' : ¬ (s ++ t).length ≤ stop := by
    rw [List.length_append]
    omega
  simp only [readBytes?, dateEnd?_append hdate (by omega) hdigit, date?_append (by omega) hdays,
    if_neg hmore', byteAt_append htime, time?_append hclock ht ho, hwall, Option.bind_eq_bind,
    Option.bind_some]

end UptimeAlert.Calendar.Reader
