import UptimeAlert.Proofs.Steps
import UptimeAlert.Settings.Basic

namespace UptimeAlert

namespace Checked

variable {α β : Type} {x : Checked α} {a : α}

theorem map_eq_valid {f : α → β} {b : β} : f <$> x = .valid b ↔ ∃ a, x = .valid a ∧ f a = b := by
  cases x with
  | valid a => simp [Functor.map, map]
  | invalid issues => simp [Functor.map, map]

theorem eq_valid_of_within {group : SettingsGroup} (h : x.within group = .valid a) :
    x = .valid a := by
  cases x with
  | valid b => exact h
  | invalid issues => cases h

theorem eq_valid_of_withIssues {more : List Issue} (h : x.withIssues more = .valid a) :
    x = .valid a := by
  cases x with
  | valid b =>
    cases more with
    | nil => exact h
    | cons issue more => cases h
  | invalid issues => cases h

/-- What is checked meets a condition, if it is valid. -/
def Meets (x : Checked α) (p : α → Prop) : Prop :=
  ∀ a, x = .valid a → p a

theorem Meets.seq {f : Checked (α → β)} {p : β → Prop} (h : f.Meets fun g => ∀ a, p (g a)) :
    (f <*> x).Meets p := by
  intro b hb
  obtain ⟨g, a, hg, -, rfl⟩ := seq_eq_valid.mp hb
  exact h g hg a

end Checked

namespace Settings

variable {env : Environment} {file : Option (List UInt8)} {s : Settings} {source : Source}

theorem field_eq_valid_iff {α : Type} {name : String} {default a : α}
    {read : Value → Except Complaint α} :
    source.field name default read = .valid a ↔
      (source.value? name = none ∧ default = a) ∨
        ∃ v, source.value? name = some v ∧ read v = .ok a := by
  unfold Source.field
  cases source.value? name with
  | none => simp
  | some v => cases hread : read v <;> simp [hread]

theorem require_eq_ok_iff {α : Type} {condition : α → Bool} {complaint : Complaint} {a b : α} :
    require condition complaint a = .ok b ↔ condition a = true ∧ a = b := by
  unfold require
  split <;> simp_all

theorem exists_source_of_loadGroup {α : Type} {group : SettingsGroup} {read : Source → Checked α}
    {given : Option Value} {a : α} (h : loadGroup group read env given = .ok (.valid a)) :
    ∃ source, read source = .valid a := by
  unfold loadGroup at h
  split at h
  · cases hread : read ⟨[], env⟩ with
    | valid b =>
      rw [hread] at h
      cases h
      exact ⟨_, hread⟩
    | invalid issues =>
      rw [hread] at h
      cases h
  · exact ⟨_, Checked.eq_valid_of_withIssues (Checked.eq_valid_of_within (Except.ok.inj h))⟩
  · cases h

/-- Each group of the settings was read from some source. -/
structure IsRead (s : Settings) : Prop where
  template : ∃ source, readTemplate source = .valid s.template
  mail : ∃ source, readMail source = .valid s.mail
  webhook : ∃ source, readWebhook source = .valid s.webhook

/-- A field that is read with a condition meets it: the value was checked, and so is the default. -/
theorem meets_field {α : Type} {name : String} {default : α} {condition : α → Bool}
    {complaint : Complaint} {read : Value → Except Complaint α}
    (hdefault : condition default = true) :
    (source.field name default fun v => read v >>= require condition complaint).Meets
      (condition · = true) := by
  intro a ha
  rcases field_eq_valid_iff.mp ha with ⟨-, rfl⟩ | ⟨v, -, hread⟩
  · exact hdefault
  · obtain ⟨b, -, hrequire⟩ := exists_of_bind_eq_ok hread
    obtain ⟨hb, rfl⟩ := require_eq_ok_iff.mp hrequire
    exact hb

theorem isPort_of_readMail {m : MailSettings} (h : readMail source = .valid m) :
    isPort m.port = true := by
  suffices hall : (readMail source).Meets (isPort ·.port = true) from hall m h
  -- Ten fields come after the port.
  iterate 10 apply Checked.Meets.seq
  intro ofRest hrest
  obtain ⟨ofPort, port, hfirst, hport, rfl⟩ := Checked.seq_eq_valid.mp hrest
  obtain ⟨host, -, rfl⟩ := Checked.map_eq_valid.mp hfirst
  have hp : isPort port = true := meets_field (by decide) port hport
  intros
  exact hp

theorem isPositive_of_readWebhook {w : WebhookSettings} (h : readWebhook source = .valid w) :
    w.timeout.isPositive = true := by
  obtain ⟨ofTimeout, timeout, hfirst, htimeout, rfl⟩ := Checked.seq_eq_valid.mp h
  obtain ⟨ofTemplate, template, hsettings, -, rfl⟩ := Checked.seq_eq_valid.mp hfirst
  obtain ⟨url, -, rfl⟩ := Checked.map_eq_valid.mp hsettings
  exact meets_field (by decide +kernel) timeout htimeout

theorem isEndpoint_of_readWebhook {w : WebhookSettings} (h : readWebhook source = .valid w)
    {url : String} (hurl : w.url = some url) : isEndpoint url = true := by
  obtain ⟨ofTimeout, timeout, hfirst, -, rfl⟩ := Checked.seq_eq_valid.mp h
  obtain ⟨ofTemplate, template, hsettings, -, rfl⟩ := Checked.seq_eq_valid.mp hfirst
  obtain ⟨setting, hsetting, rfl⟩ := Checked.map_eq_valid.mp hsettings
  obtain rfl : setting = some url := hurl
  exact meets_field rfl (some url) hsetting

variable [Platform]

/-- Settings that load were read group by group, each from its own source. -/
theorem isRead_of_load (h : load env file = .ok s) : s.IsRead := by
  obtain ⟨vars, -, h⟩ := exists_of_bind_eq_ok h
  obtain ⟨given, -, h⟩ := exists_of_bind_eq_ok h
  obtain ⟨ofFile, -, h⟩ := exists_of_bind_eq_ok h
  obtain ⟨template, htemplate, h⟩ := exists_of_bind_eq_ok h
  obtain ⟨mail, hmail, h⟩ := exists_of_bind_eq_ok h
  obtain ⟨webhook, hwebhook, h⟩ := exists_of_bind_eq_ok h
  dsimp only at h
  split at h
  next settings hsettings =>
    cases h
    obtain ⟨toSettings, level, hgroups, -, rfl⟩ := Checked.seq_eq_valid.mp hsettings
    obtain ⟨ofWebhook, w, hfirst, rfl, rfl⟩ := Checked.seq_eq_valid.mp hgroups
    obtain ⟨ofMail, m, htemplates, rfl, rfl⟩ := Checked.seq_eq_valid.mp hfirst
    obtain ⟨t, rfl, rfl⟩ := Checked.map_eq_valid.mp htemplates
    exact ⟨exists_source_of_loadGroup htemplate, exists_source_of_loadGroup hmail,
      exists_source_of_loadGroup hwebhook⟩
  next issues hissues => cases h

theorem isPort_of_load (h : load env file = .ok s) : isPort s.mail.port = true :=
  (isRead_of_load h).mail.elim fun _ hread => isPort_of_readMail hread

theorem isPositive_of_load (h : load env file = .ok s) : s.webhook.timeout.isPositive = true :=
  (isRead_of_load h).webhook.elim fun _ hread => isPositive_of_readWebhook hread

theorem isEndpoint_of_load (h : load env file = .ok s) {url : String}
    (hurl : s.webhook.url = some url) : isEndpoint url = true :=
  (isRead_of_load h).webhook.elim fun _ hread => isEndpoint_of_readWebhook hread hurl

end Settings

end UptimeAlert
