import UptimeAlert.Proofs.Calendar.Extension
import UptimeAlert.Proofs.Heartbeat.Spelling

namespace UptimeAlert

open UptimeAlert.Text

namespace Calendar

inductive OffsetForm where
  | zulu
  | signed (behind : Bool) (hour : Fin 24) (minute : Fin 60)

namespace OffsetForm

def text : OffsetForm → List Char
  | zulu => ['Z']
  | signed behind hour minute =>
    (if behind then '-' else '+') :: padded 2 hour ++ ':' :: padded 2 minute

/-- The microseconds that a clock of the offset is ahead. -/
def lead : OffsetForm → Int
  | zulu => 0
  | signed behind hour minute =>
    (if behind then -1 else 1) * ((hour * 60 + minute : Nat) * 60000000)

/-- Hours and minutes as the time that they are written as. -/
def time (hour : Fin 24) (minute : Fin 60) : TimeForm :=
  .minutes true (.ofNat (n := hour) (by omega))
    (.ofNat (n := minute) (by omega))

theorem text_signed (behind : Bool) (hour : Fin 24) (minute : Fin 60) :
    (signed behind hour minute).text =
      (if behind then '-' else '+') :: (time hour minute).text := by
  simp [text, time, TimeForm.text, DigitRun.ofNat, mark]

theorem toMicros_time (hour : Fin 24) (minute : Fin 60) :
    (time hour minute).clock.toMicros = (hour * 60 + minute) * 60000000 := by
  simp only [time, TimeForm.clock, DigitRun.value_ofNat, Clock.toMicros]
  omega

theorem isAscii (f : OffsetForm) : ∀ c ∈ f.text, c.toNat < 128 := by
  have htime : ∀ c ∈ Reader.timeChars, c.toNat < 128 := List.all_iff_forall_prop.mp (by decide)
  cases f with
  | zulu => exact List.all_iff_forall_prop.mp (by decide)
  | signed behind hour minute =>
    intro c hc
    rw [text_signed, List.mem_cons] at hc
    rcases hc with rfl | hc
    · cases behind <;> decide
    · exact htime c (Reader.timeText_subset _ hc)

theorem opens (f : OffsetForm) :
    Reader.opensOffset (Reader.byteAt (f.text.map Reader.code) 0) = true := by
  cases f with
  | zulu => decide
  | signed behind => cases behind <;> rfl

theorem isBlank_last (f : OffsetForm) : ∃ init last, f.text = init ++ [last] ∧
    isBlank last = false := by
  cases f with
  | zulu => exact ⟨[], 'Z', rfl, by decide⟩
  | signed behind hour minute =>
    obtain ⟨init, last, htext, hlast⟩ := (time hour minute).endsInDigit
    refine ⟨(if behind then '-' else '+') :: init, last, ?_, Heartbeat.isBlank_of_isDigit hlast⟩
    rw [text_signed, htext, List.cons_append]

end OffsetForm

namespace Reader

theorem shows_end (s : List UInt8) (cs : List Char) : Shows (s ++ cs.map code) s.length cs := by
  unfold Shows
  simp

/-- A written offset that ends a text is read as itself. -/
theorem offset?_form (s : List UInt8) (f : OffsetForm) :
    ∃ o, offset? (s ++ f.text.map code) s.length = some o ∧ o.micros = f.lead := by
  have hshows := shows_end s f.text
  cases f with
  | zulu =>
    have hpast : byteAt (s ++ OffsetForm.zulu.text.map code) (s.length + 1) = 0 :=
      byteAt_past (by simp [OffsetForm.text])
    exact ⟨Offset.zero, by rw [offset?, if_pos hshows.byteAt, if_pos hpast], rfl⟩
  | signed behind hour minute =>
    have hlength : (s ++ (OffsetForm.signed behind hour minute).text.map code).length =
        s.length + 1 + (OffsetForm.time hour minute).text.length := by
      rw [List.length_append, List.length_map, OffsetForm.text_signed, List.length_cons]
      omega
    rw [OffsetForm.text_signed] at hshows hlength ⊢
    have hclock := clock?_form_end hshows.tail hlength
    have hother : code (if behind then '-' else '+') ≠ code 'Z' := by cases behind <;> decide
    have hminus : code (if behind then '-' else '+') = code '-' ↔ behind = true := by
      cases behind <;> decide
    have hmicros : (if behind then -((OffsetForm.time hour minute).clock.toMicros : Int)
        else (OffsetForm.time hour minute).clock.toMicros) =
          (OffsetForm.signed behind hour minute).lead := by
      rw [OffsetForm.toMicros_time, OffsetForm.lead]
      cases behind <;> simp
    have hbound : (OffsetForm.signed behind hour minute).lead.natAbs < dayMicros := by
      rw [OffsetForm.lead, dayMicros]
      cases behind <;> simp <;> omega
    refine ⟨⟨_, hbound⟩, ?_, rfl⟩
    have hwhole : (OffsetForm.time hour minute).clock.toMicros = 0 ∨
        1000000 ≤ (OffsetForm.time hour minute).clock.toMicros := by
      rw [OffsetForm.toMicros_time]
      omega
    rw [offset?_of_clock hshows.byteAt hother hclock, offsetOf?_eq hwhole]
    simp only [hminus, Bool.decide_eq_true, hmicros]
    exact dif_pos hbound

end Reader

end Calendar

namespace Heartbeat

open UptimeAlert.Calendar

/-- Whether a result is the instant of a count of microseconds, and none where the calendar does not
reach. -/
def IsInstantAt (result : Option Instant) (micros : Int) : Prop :=
  (∀ y, result = some y ↔ (y.micros : Int) = micros) ∧
    (result = none ↔ ¬ WallTime.InCalendar micros)

theorem isInstantAt_shift? (w : WallTime) (micros : Int) :
    IsInstantAt (w.shift? micros) (w.micros + micros) :=
  ⟨fun _ => WallTime.shift?_eq_some_iff, WallTime.shift?_eq_none_iff⟩

def HasTime (cs : List Char) : Prop :=
  ∃ stop, Reader.dateEnd? (Utf8.encode cs) = some stop ∧ stop < (Utf8.encode cs).length

/-- The instant of a text that stands between other texts. -/
def instantAmid (before after cs : List Char) : Option Instant :=
  instantOf? (.text (String.ofList (before ++ cs ++ after)))

/-- What offsets do to a text with a time of its own: without one and with a Z behind it, it has
that instant, and with any offset the one that is so much earlier, if there is one. -/
structure TakesOffsets (before after cs : List Char) (x : Instant) : Prop where
  plain : instantAmid before after cs = some x
  zulu : instantAmid before after (cs ++ ['Z']) = some x
  shifted : ∀ f : OffsetForm,
    IsInstantAt (instantAmid before after (cs ++ f.text)) (x.micros - f.lead)

section

variable {before after cs : List Char} {x : WallTime}

theorem instantAmid_eq (hbefore : ∀ c ∈ before, isBlank c = true)
    (hafter : ∀ c ∈ after, isBlank c = true) (cs : List Char) :
    instantAmid before after cs = (Reader.read? (strip cs)).bind Moment.instant? := by
  rw [instantAmid, instantOf?, String.toList_ofList, strip_surrounded hbefore hafter]

theorem strip_append {init : List Char} {last : Char} (hcs : strip cs = cs) (hne : cs ≠ [])
    (hlast : isBlank last = false) : strip (cs ++ (init ++ [last])) = cs ++ (init ++ [last]) := by
  refine strip_eq_self_iff.mpr ⟨fun c hc => ?_, fun c hc => ?_⟩
  · rw [List.head?_append_of_ne_nil _ hne] at hc
    exact (strip_eq_self_iff.mp hcs).1 c hc
  · simp only [← List.append_assoc, List.getLast?_concat, Option.mem_some_iff] at hc
    exact hc ▸ hlast

/-- A text with a time of day and no offset is shifted by an offset that is put behind it. -/
theorem instantAmid_append (hcs : strip cs = cs) (hread : Reader.read? cs = some ⟨x, none⟩)
    (htime : HasTime cs) (hbefore : ∀ c ∈ before, isBlank c = true)
    (hafter : ∀ c ∈ after, isBlank c = true) (f : OffsetForm) :
    instantAmid before after (cs ++ f.text) = x.shift? (-f.lead) := by
  obtain ⟨stop, hdate, hlong⟩ := htime
  obtain ⟨o, ho, hlead⟩ := Reader.offset?_form (Utf8.encode cs) f
  have hne : cs ≠ [] := by
    rintro rfl
    exact absurd hlong (Nat.not_lt_zero _)
  have hstrip : strip (cs ++ f.text) = cs ++ f.text := by
    obtain ⟨init, last, htext, hlast⟩ := f.isBlank_last
    rw [htext]
    exact strip_append hcs hne hlast
  have hencode : Utf8.encode (cs ++ f.text) = Utf8.encode cs ++ f.text.map Reader.code := by
    rw [Utf8.encode, List.flatMap_append]
    exact congrArg _ (Utf8.encode_ascii f.isAscii)
  rw [instantAmid_eq hbefore hafter, hstrip, Reader.read?, hencode,
    Reader.readBytes?_append hread hdate hlong f.opens ho, ← hlead]
  rfl

/-- Offsets shift every text that is read as a date-time with a time of day and without an offset,
in whatever form its date, separator and fraction are. -/
theorem takesOffsets_of_read (hcs : strip cs = cs) (hread : Reader.read? cs = some ⟨x, none⟩)
    (htime : HasTime cs) (hbefore : ∀ c ∈ before, isBlank c = true)
    (hafter : ∀ c ∈ after, isBlank c = true) : TakesOffsets before after cs x := by
  have hshift := instantAmid_append hcs hread htime hbefore hafter
  have hzero : x.shift? 0 = some x := by
    rw [WallTime.shift?_eq_some_iff, Int.add_zero]
  refine ⟨?_, ?_, fun f => ?_⟩
  · rw [instantAmid_eq hbefore hafter, hcs, hread]
    rfl
  · exact (hshift .zulu).trans hzero
  · rw [hshift f]
    exact isInstantAt_shift? x (-f.lead)

/-- The last moment of the calendar, written with a separator of two bytes, a comma and more digits
than count. -/
theorem takesOffsets_of_read_last :
    strip "9999-12-31é23:59:59,9999999".toList = "9999-12-31é23:59:59,9999999".toList ∧
    Reader.read? "9999-12-31é23:59:59,9999999".toList =
      some ⟨⟨Date.dayLimit * dayMicros - 1, by decide⟩, none⟩ ∧
    HasTime "9999-12-31é23:59:59,9999999".toList ∧
    (∀ c ∈ ['\u2003'], isBlank c = true) ∧ (∀ c ∈ ['\n', '\x1c'], isBlank c = true) ∧
    TakesOffsets ['\u2003'] ['\n', '\x1c'] "9999-12-31é23:59:59,9999999".toList
      ⟨Date.dayLimit * dayMicros - 1, by decide⟩ := by
  have hstrip : strip "9999-12-31é23:59:59,9999999".toList =
    "9999-12-31é23:59:59,9999999".toList := by decide +kernel
  have hread : Reader.read? "9999-12-31é23:59:59,9999999".toList =
      some ⟨⟨Date.dayLimit * dayMicros - 1, by decide⟩, none⟩ := by decide +kernel
  have htime : HasTime "9999-12-31é23:59:59,9999999".toList :=
    ⟨10, by decide +kernel, by decide +kernel⟩
  have hbefore : ∀ c ∈ ['\u2003'], isBlank c = true := List.all_eq_true.mp (by decide)
  have hafter : ∀ c ∈ ['\n', '\x1c'], isBlank c = true := List.all_eq_true.mp (by decide)
  exact ⟨hstrip, hread, htime, hbefore, hafter,
    takesOffsets_of_read hstrip hread htime hbefore hafter⟩

end

end Heartbeat

end UptimeAlert
