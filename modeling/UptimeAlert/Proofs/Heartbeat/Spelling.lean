import UptimeAlert.Heartbeat
import UptimeAlert.Proofs.Calendar.FormReader

namespace UptimeAlert.Heartbeat

open UptimeAlert.Calendar
open UptimeAlert.Text

/-- A text without blanks around it has the instant of the date-time that it reads as. -/
theorem instantOf?_text_eq_some_iff {cs : List Char} {x : Instant} (hcs : strip cs = cs) :
    instantOf? (.text (String.ofList cs)) = some x ↔
      ∃ m, Reader.read? cs = some m ∧ m.instant? = some x := by
  rw [instantOf?, String.toList_ofList, hcs, Option.bind_eq_some_iff]

theorem isBlank_of_isDigit {d : Char} (h : isDigit d = true) : isBlank d = false :=
  forall_digits (p := fun d => isBlank d = false) (by decide) h

/-- A text with a digit at either end has no blanks around it. -/
theorem strip_of_digits {cs : List Char} (hfirst : ∃ d rest, cs = d :: rest ∧ isDigit d = true)
    (hlast : EndsInDigit cs) : strip cs = cs := by
  refine strip_eq_self_iff.mpr ⟨?_, ?_⟩
  · obtain ⟨d, rest, rfl, hd⟩ := hfirst
    simpa using isBlank_of_isDigit hd
  · obtain ⟨init, d, rfl, hd⟩ := hlast
    simpa using isBlank_of_isDigit hd

/-- A text of a known shape is read as the instant it denotes, and only as that. -/
theorem instantOf?_form_iff {f : Form} {x : Instant} :
    instantOf? (.text (String.ofList f.text)) = some x ↔ f.Denotes x := by
  rw [instantOf?_text_eq_some_iff (strip_of_digits f.begins_with_digit f.endsInDigit)]
  simp only [Reader.read?_form]
  constructor
  · rintro ⟨⟨wall, _⟩, ⟨rfl, hdenotes⟩, hinstant⟩
    obtain rfl := Option.some.inj hinstant
    exact hdenotes
  · intro h
    exact ⟨⟨x, none⟩, ⟨rfl, h⟩, rfl⟩

/-- A shape denotes an instant exactly when its date exists and a clock shows its time. -/
theorem exists_denotes_iff {f : Form} :
    (∃ x, f.Denotes x) ↔
      f.date.IsReal ∧ f.clock.hour ≤ 23 ∧ f.clock.minute ≤ 59 ∧ f.clock.second ≤ 59 := by
  rw [DateForm.isReal_iff, ← f.isValid_clock_iff]
  constructor
  · rintro ⟨x, hdate, hclock⟩
    exact ⟨⟨x.date, x.isValid_date, hdate⟩, hclock ▸ x.isValid_clock⟩
  · rintro ⟨⟨date, hvalid, hdate⟩, hclock⟩
    obtain ⟨x, hx⟩ := WallTime.exists_ofDay? (Date.toDays_lt_dayLimit hvalid) hclock
    obtain ⟨-, hsame, hclock'⟩ := WallTime.ofDay?_eq_some_iff.mp hx
    obtain rfl := Date.eq_of_toDays_eq x.isValid_date hvalid hsame
    exact ⟨x, hdate, hclock'⟩

/-- The instant of a written form is the one that it denotes, and it has one exactly if its digits
say a day of the years 1 to 9999 and a time that a clock shows. The moment is then spelled in all
four forms of a date, by month or week and with hyphens or without, to the same effect. -/
theorem instantOf?_spelled (f : Form) :
    (∀ x, instantOf? (.text (String.ofList f.text)) = some x ↔ f.Denotes x) ∧
    ((∃ x, instantOf? (.text (String.ofList f.text)) = some x) ↔
      f.date.IsReal ∧ f.clock.hour ≤ 23 ∧ f.clock.minute ≤ 59 ∧ f.clock.second ≤ 59) ∧
    ∀ x, f.Denotes x → ∀ extended,
      (∃ year month day, instantOf? (.text (String.ofList
        (Form.text ⟨.byMonth extended year month day, f.part⟩))) = some x) ∧
      ∃ year week day, instantOf? (.text (String.ofList
        (Form.text ⟨.byWeek extended year week day, f.part⟩))) = some x := by
  simp only [instantOf?_form_iff, exists_denotes_iff, implies_true, iff_self, true_and]
  intro x hx extended
  have hmonth : (DateForm.ofDate extended x.isValid_date).Denotes x.date :=
    (DateForm.ofDate_denotes_iff _).mpr rfl
  obtain ⟨year', week, weekday, hweek⟩ := DateForm.exists_byWeek x.isValid_date extended
  exact ⟨⟨_, _, _, hmonth, hx.2⟩, ⟨year', week, weekday, hweek, hx.2⟩⟩

end UptimeAlert.Heartbeat
