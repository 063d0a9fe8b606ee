import UptimeAlert.Platform.Standard
import UptimeAlert.Proofs.Delivery.Mail
import UptimeAlert.Proofs.Template.Lexeme
import UptimeAlert.Proofs.Text.Blank

namespace UptimeAlert

open UptimeAlert.Text

namespace Template

variable {monitor : Option Monitor} {heartbeat : Option Heartbeat} {d : Dictionary}

theorem Dictionary.exists_update {h : Heartbeat} (hd : build monitor (some h) = .ok d) :
    ∃ front entries : Dictionary, ofHeartbeat h = .ok entries ∧ d = front.update entries := by
  obtain ⟨dm, entries, -, hentries, rfl⟩ := build_eq_ok_iff.mp hd
  exact ⟨_, entries, hentries, rfl⟩

/-- The token of the time stands for the time of the heartbeat as it is shown. -/
theorem Dictionary.get_time {h : Heartbeat} (hd : build monitor (some h) = .ok d) :
    Fields.get d (token "TIME_UTC") = Heartbeat.shownTime h.time := by
  obtain ⟨front, entries, hentries, rfl⟩ := exists_update hd
  have hkeys : (entries.map Prod.fst).Nodup := by
    rw [keys_ofHeartbeat hentries]
    decide
  refine get_update_of_mem hkeys ?_ front
  obtain ⟨s, -, -, rfl⟩ := ofHeartbeat_eq_ok_iff.mp hentries
  simp

theorem Dictionary.time_mem_tokens {h : Heartbeat} (hd : build monitor (some h) = .ok d) :
    placeholder "TIME_UTC".toList ∈ d.tokens := by
  rw [tokens_eq_map_keys, keys_build hd, Option.isSome_some]
  cases monitor.isSome <;> decide

theorem given?_of_blank {template : Option String}
    (h : ∀ c ∈ (template.getD "").toList, isBlank c = true) : given? template = none := by
  have hstrip : strip (template.getD "").toList = [] := by
    have hsurrounded := strip_surrounded h (List.forall_mem_nil _) []
    simpa [strip, trim] using hsurrounded
  rw [given?, hstrip]
  rfl

variable [Platform]

/-- A template that is a single token shows what the token stands for. -/
theorem Lexeme.render_token (r : Renderer) {name : String}
    (hd : Dictionary.build monitor heartbeat = .ok d)
    (hverdict : ∀ h ∈ heartbeat, h.status.IsVerdict) (hparts : PartsWritable monitor heartbeat)
    (plain : BraceFree name.toList) (free : reserved name.toList = false)
    (hmem : placeholder name.toList ∈ d.tokens) :
    r.render (token name) monitor heartbeat =
      .ok (String.ofList (d.valueText r.missing.toList (placeholder name.toList))) := by
  have htext : flatten [.other name.toList plain free] = placeholder name.toList :=
    List.append_nil _
  have hh : ∀ h ∈ heartbeat, (Status.ofValue? h.status).isSome ∧ h.time.isWritable = true :=
    fun h hmem => ⟨Value.isVerdict_iff.mp (hverdict h hmem), hparts.time h hmem⟩
  obtain ⟨left, hexpand, hvalue⟩ :=
    expandHeartbeat_flatten hd hh r.missing.toList [.other name.toList plain free]
  have hevaluate : evaluate d r.missing.toList (heartbeat.bind verdict)
      [.other name.toList plain free] = d.valueText r.missing.toList (placeholder name.toList) := by
    have hput (i : Option Instant) :
        value d r.missing.toList i (.other name.toList plain free) =
          d.valueText r.missing.toList (placeholder name.toList) := if_pos hmem
    cases heartbeat.bind verdict with
    | none => simp [evaluate, hput]
    | some found => simp [evaluate, visible, changeBlock, splitFirst, isMarker, hput]
  refine Renderer.render_eq_ok_iff.mpr ⟨flatten left, d, ?_, hd, hparts, ?_⟩
  · rw [← hexpand, htext, token, String.toList_ofList]
  · rw [substitute_flatten hd, hvalue, hevaluate]

/-- A template that is the token of the time shows the time, whatever monitor there is. -/
theorem Renderer.render_time (r : Renderer) {h : Heartbeat} (hs : h.status.IsVerdict)
    (hm : ∀ m ∈ monitor, m.type.isSimple = true) (hparts : PartsWritable monitor (some h)) :
    r.render (token "TIME_UTC") monitor (some h) =
      .ok (String.ofList (stringify r.missing.toList (Heartbeat.shownTime h.time))) := by
  have hverdict : ∀ h' ∈ some h, h'.status.IsVerdict := by
    rintro h' ⟨⟩
    exact hs
  obtain ⟨d, hd⟩ := Dictionary.exists_build hm fun h' hmem =>
    ⟨Value.isVerdict_iff.mp (hverdict h' hmem), hparts.time h' hmem⟩
  have htime : Fields.get d (String.ofList (placeholder "TIME_UTC".toList)) =
      Heartbeat.shownTime h.time := Dictionary.get_time hd
  rw [Lexeme.render_token r hd hverdict hparts (by decide) (by decide)
    (Dictionary.time_mem_tokens hd), Dictionary.valueText, htime]

end Template

namespace Mailer

/-- Without a template for it the body of a mail is the message as it is, and the time that a
template shows for its token. What cannot be written fails in either. -/
theorem body_shows_time [Platform] (m : Mailer) (h : Heartbeat) (hs : h.status.IsVerdict)
    (hbody : ∀ c ∈ (m.customBody.getD "").toList, isBlank c = true) :
    ∃ time : String,
      (∀ monitor : Option Monitor, (∀ mon ∈ monitor, mon.type.isSimple = true) →
        m.renderer.render (Template.token "TIME_UTC") monitor (some h) =
          if Template.PartsWritable monitor (some h) then .ok time
          else .error (.fault .tooManyDigits)) ∧
      ∀ msg monitor, m.body ⟨msg, monitor, some h⟩ =
        h.time.ifWritable (msg ++ "\nTime (UTC): " ++ time) := by
  refine ⟨String.ofList (Template.stringify m.renderer.missing.toList
    (Heartbeat.shownTime h.time)), fun monitor hm => ?_, fun msg monitor => ?_⟩
  · split
    · rename_i hparts
      exact m.renderer.render_time hs hm hparts
    · rename_i hparts
      refine Template.Renderer.render_of_not_partsWritable ?_ hm hparts
      rintro h' ⟨⟩
      exact hs
  · rw [body, Template.given?_of_blank hbody]
    exact plainBody_of_heartbeat rfl

/-- A message and a time that look like tokens are told as they are. -/
theorem body_shows_time_markup :
    let m : Mailer := ⟨"smtp.example.com", "ops@example.com", 587, false, false, none, none, none,
      none, none, none, some " \n", ⟨"null"⟩, .null⟩
    let h : Heartbeat := ⟨.text (Template.token "TIME_UTC"), .text "down", .null, .null, .null,
      .null, .null⟩
    h.status.IsVerdict ∧ (∀ c ∈ (m.customBody.getD "").toList, isBlank c = true) ∧
      ∃ time : String,
        m.renderer.render (Template.token "TIME_UTC") none (some h) = .ok time ∧
        ∀ msg monitor, m.body ⟨msg, monitor, some h⟩ = .ok (msg ++ "\nTime (UTC): " ++ time) := by
  intro m h
  have hs : h.status.IsVerdict := by decide
  have hblank : ∀ c ∈ (m.customBody.getD "").toList, isBlank c = true :=
    List.all_eq_true.mp (by decide)
  obtain ⟨time, hrender, hbody⟩ := body_shows_time m h hs hblank
  refine ⟨hs, hblank, time, ?_, fun msg monitor => ?_⟩
  · rw [hrender none nofun, if_pos (by decide)]
  · rw [hbody]
    exact Value.ifWritable_of_isWritable rfl _

end Mailer

end UptimeAlert
