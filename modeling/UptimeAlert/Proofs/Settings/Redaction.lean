import Mathlib.Control.Monad.Basic
import UptimeAlert.Platform.Standard
import UptimeAlert.Proofs.Text.Occurrence
import UptimeAlert.Settings.Summary

namespace UptimeAlert.Settings

open UptimeAlert.Text

theorem exists_scheme_of_isEndpoint {url : String} (h : isEndpoint url = true) :
    ∃ scheme rest, (scheme = "http".toList ∨ scheme = "https".toList) ∧
      url.toList = scheme ++ ("://".toList ++ rest) := by
  rw [isEndpoint, Bool.or_eq_true, List.isPrefixOf_iff_prefix, List.isPrefixOf_iff_prefix] at h
  rcases h with ⟨rest, hrest⟩ | ⟨rest, hrest⟩
  · exact ⟨_, rest, .inl rfl, by simp [← hrest]⟩
  · exact ⟨_, rest, .inr rfl, by simp [← hrest]⟩

theorem cut?_scheme {scheme : List Char} (h : ':' ∉ scheme) (cs : List Char) :
    cut? "://".toList (scheme ++ ("://".toList ++ cs)) = some (scheme, cs) := by
  have havoids : Avoids "://".toList scheme ("://".toList ++ cs) := avoids_of_not_mem h
  rw [cut?_append havoids, cut?_self]
  simp

/-- Redaction leaves the scheme of an address as it is. -/
theorem prefix_redactUrl {scheme : List Char} (h : ':' ∉ scheme) (cs : List Char) :
    scheme <+: redactUrl (scheme ++ ("://".toList ++ cs)) := by
  unfold redactUrl
  rw [cut?_scheme h]
  split
  next before after found rest hat hscheme =>
    cases hscheme
    split
    · simp only [List.append_assoc]
      exact List.prefix_append _ _
    · exact List.prefix_append _ _
  · exact List.prefix_append _ _

/-- Whether a character ends the authority of a web address. -/
def endsAuthority (c : Char) : Bool :=
  c = '/' || c = '?' || c = '#'

/-- The parts of a web address with a user and a password. -/
structure AddressParts where
  scheme : List Char
  user : List Char
  password : List Char
  rest : List Char

namespace AddressParts

def front (a : AddressParts) : List Char :=
  a.scheme ++ "://".toList ++ a.user

def text (a : AddressParts) : String :=
  String.ofList (a.front ++ ':' :: (a.password ++ '@' :: a.rest))

/-- The parts are those of an address that settings accept, and its authority ends its password at
the last at sign. -/
structure IsAddress (a : AddressParts) : Prop where
  accepted : isEndpoint a.text = true
  scheme_plain : ':' ∉ a.scheme
  user_plain : ∀ c ∈ a.user, c ≠ ':' ∧ c ≠ '@' ∧ endsAuthority c = false
  password_ne_nil : a.password ≠ []
  password_plain : ∀ c ∈ a.password, endsAuthority c = false
  rest_plain : '@' ∉ a.rest.takeWhile fun c => !endsAuthority c

instance (a : AddressParts) : Decidable a.IsAddress :=
  decidable_of_iff
    (isEndpoint a.text = true ∧ ':' ∉ a.scheme ∧
      (a.user.all fun c => c != ':' && c != '@' && !endsAuthority c) = true ∧
      a.password ≠ [] ∧ (a.password.all fun c => !endsAuthority c) = true ∧
      '@' ∉ a.rest.takeWhile fun c => !endsAuthority c) <| by
    simp only [List.all_eq_true, Bool.and_eq_true, bne_iff_ne, Bool.not_eq_true', and_assoc]
    constructor
    · rintro ⟨haccepted, hscheme, huser, hne, hpassword, hrest⟩
      exact ⟨haccepted, hscheme, huser, hne, hpassword, hrest⟩
    · intro h
      exact ⟨h.accepted, h.scheme_plain, h.user_plain, h.password_ne_nil, h.password_plain,
        h.rest_plain⟩

/-- What is exposed of a password: what stands after its first at sign. -/
def exposed (password : List Char) : Option (List Char) :=
  (cut? ['@'] password).map Prod.snd

def shownRest (a : AddressParts) : List Char :=
  match exposed a.password with
  | none => a.rest
  | some ending => ending ++ '@' :: a.rest

def withPassword (a : AddressParts) (password : List Char) : AddressParts :=
  { a with password }

variable {a : AddressParts} {p q : List Char}

theorem IsAddress.scheme_eq (h : a.IsAddress) :
    a.scheme = "http".toList ∨ a.scheme = "https".toList := by
  obtain ⟨scheme, rest, hscheme, htext⟩ := exists_scheme_of_isEndpoint h.accepted
  have hplain : ':' ∉ scheme := by rcases hscheme with rfl | rfl <;> decide
  have hparts : a.scheme ++ ':' :: ("//".toList ++ a.user ++ ':' :: (a.password ++ '@' :: a.rest)) =
      scheme ++ ':' :: ("//".toList ++ rest) := by
    simpa [text, front] using htext
  rw [← takeWhile_append_self h.scheme_plain, hparts, takeWhile_append_self hplain]
  exact hscheme

theorem IsAddress.not_mem_front (h : a.IsAddress) : '@' ∉ a.front := by
  intro hmem
  rcases List.mem_append.mp hmem with hmem | hmem
  · rcases h.scheme_eq with hs | hs <;> rw [hs] at hmem <;> exact absurd hmem (by decide)
  · exact (h.user_plain _ hmem).2.1 rfl

/-- The first at sign of an address is that of its password, if it has one, or else the one after
it. -/
theorem IsAddress.cut?_text (h : a.IsAddress) :
    ∃ hidden, cut? ['@'] a.text.toList = some (a.front ++ ':' :: hidden, a.shownRest) := by
  have hfront {hidden : List Char} (hh : '@' ∉ hidden) : '@' ∉ a.front ++ ':' :: hidden := by
    simp [h.not_mem_front, hh]
  cases hcut : cut? ['@'] a.password with
  | none =>
    refine ⟨a.password, cut?_char_eq_some_iff.mpr ⟨?_, hfront (cut?_char_eq_none_iff.mp hcut)⟩⟩
    simp [text, shownRest, exposed, hcut]
  | some parts =>
    obtain ⟨hidden, ending⟩ := parts
    obtain ⟨hpassword, hhidden⟩ := cut?_char_eq_some_iff.mp hcut
    refine ⟨hidden, cut?_char_eq_some_iff.mpr ⟨?_, hfront hhidden⟩⟩
    simp only [text, shownRest, exposed, hcut]
    simp [hpassword]

/-- Redaction hides the password of an address up to its first at sign. -/
theorem IsAddress.redactUrl_text (h : a.IsAddress) :
    redactUrl a.text.toList = a.front ++ (":***@".toList ++ a.shownRest) := by
  obtain ⟨hidden, hat⟩ := h.cut?_text
  have hscheme : cut? "://".toList a.text.toList =
      some (a.scheme, a.user ++ ':' :: (a.password ++ '@' :: a.rest)) := by
    rw [← cut?_scheme h.scheme_plain]
    simp [text, front]
  have hdrop : (a.front ++ ':' :: hidden).drop (a.scheme.length + 3) = a.user ++ ':' :: hidden := by
    have hlength : a.scheme.length + 3 = (a.scheme ++ "://".toList).length := by simp
    rw [front, List.append_assoc, List.append_assoc, ← List.append_assoc, hlength,
      List.drop_left]
  have huser : cut? [':'] (a.user ++ ':' :: hidden) = some (a.user, hidden) :=
    cut?_char_eq_some_iff.mpr ⟨rfl, fun hmem => (h.user_plain _ hmem).1 rfl⟩
  simp only [redactUrl, hat, hscheme, hdrop, huser]
  simp [front]

theorem append_at_ne (ending rest : List Char) : ending ++ '@' :: rest ≠ rest := by
  intro h
  have hlength := congrArg List.length h
  rw [List.length_append, List.length_cons] at hlength
  omega

/-- Addresses that show the same rest expose the same ending of the password. -/
theorem exposed_eq_of_shownRest (h : (a.withPassword p).shownRest = (a.withPassword q).shownRest) :
    exposed p = exposed q := by
  simp only [shownRest, withPassword] at h
  cases hp : exposed p with
  | none =>
    cases hq : exposed q with
    | none => rfl
    | some ending =>
      rw [hp, hq] at h
      exact absurd h.symm (append_at_ne ending a.rest)
  | some ending =>
    cases hq : exposed q with
    | none =>
      rw [hp, hq] at h
      exact absurd h (append_at_ne ending a.rest)
    | some ending' =>
      rw [hp, hq] at h
      exact congrArg some (List.append_cancel_right h)

end AddressParts

open AddressParts

/-- The settings with a password for the mail server and an address for the webhook. -/
def withSecrets (s : Settings) (password : String) (a : AddressParts) : Settings :=
  { s with
    mail := { s.mail with password := some password }
    webhook := { s.webhook with url := some a.text } }

theorem shownPassword_of_ne {password : String} (h : password ≠ "") :
    shownPassword (some password) = "(set)" := by
  rw [shownPassword, Option.getD_some, if_neg fun hempty => h (String.isEmpty_iff.mp hempty)]

theorem shown_of_ne {setting : String} (h : setting ≠ "") : shown (some setting) = setting := by
  simp only [shown]
  rw [if_neg fun hempty => h (String.isEmpty_iff.mp hempty)]

/-- The summary of settings with secrets holds no more of them than the address exposes. -/
theorem summary_withSecrets (s : Settings) {password : String} (h : password ≠ "")
    {a : AddressParts} (ha : a.IsAddress) :
    (s.withSecrets password a).summary =
      { s.summary with
        password := "(set)"
        url := String.ofList (a.front ++ (":***@".toList ++ a.shownRest))
        webhookEnabled := true } := by
  have hurl : String.ofList (a.front ++ (":***@".toList ++ a.shownRest)) ≠ "" := by
    intro hempty
    simpa using congrArg String.toList hempty
  simp only [summary, withSecrets, shownPassword_of_ne h, Option.map_some, ha.redactUrl_text,
    shown_of_ne hurl]
  rfl

/-- Two settings that differ in secrets only have the same summary exactly when the passwords of
their addresses have the same ending after their first at signs, or have no at signs. -/
theorem summary_withSecrets_eq_iff (s : Settings) (a : AddressParts) {p q : List Char}
    {m n : String} (hm : m ≠ "") (hn : n ≠ "") (hp : (a.withPassword p).IsAddress)
    (hq : (a.withPassword q).IsAddress) :
    (s.withSecrets m (a.withPassword p)).summary = (s.withSecrets n (a.withPassword q)).summary ↔
      exposed p = exposed q := by
  rw [summary_withSecrets s hm hp, summary_withSecrets s hn hq]
  constructor
  · intro h
    have hurl := congrArg (fun summary => summary.url.toList) h
    exact exposed_eq_of_shownRest (by simpa [front, withPassword] using hurl)
  · intro h
    have hrest : (a.withPassword p).shownRest = (a.withPassword q).shownRest := by
      simp only [shownRest, withPassword, h]
    rw [hrest]
    rfl

/-- A password with a colon in it is hidden. -/
theorem summary_withSecrets_eq_iff_colon :
    let s : Settings := ⟨⟨""⟩, ⟨none, 587, false, false, none, none, none, none, none, none, none,
      none⟩, ⟨none, none, .ofNat 10⟩, .info⟩
    let a : AddressParts :=
      ⟨"https".toList, "user".toList, [], "hooks.example.com:8443/x?to=a@b".toList⟩
    (a.withPassword "to:ken".toList).IsAddress ∧ (a.withPassword "t".toList).IsAddress ∧
      (s.withSecrets "hunter2" (a.withPassword "to:ken".toList)).summary =
        (s.withSecrets "hunter3" (a.withPassword "t".toList)).summary := by
  intro s a
  have hcolon : (a.withPassword "to:ken".toList).IsAddress := by decide +kernel
  have hshort : (a.withPassword "t".toList).IsAddress := by decide +kernel
  exact ⟨hcolon, hshort,
    (summary_withSecrets_eq_iff s a (by decide) (by decide) hcolon hshort).mpr rfl⟩

/-- What stands in a password after an at sign is shown: two environments give settings that differ
in secrets only, and their summaries differ. -/
theorem summary_reveals_ending :
    let s : Settings := ⟨⟨""⟩, ⟨none, 587, false, false, none, none, none, none, none, none, none,
      none⟩, ⟨none, none, .ofNat 10⟩, .info⟩
    let a : AddressParts := ⟨"https".toList, "user".toList, "p@ss".toList, "example.com".toList⟩
    let b : AddressParts := a.withPassword "p@rt".toList
    a.IsAddress ∧ b.IsAddress ∧
      load [("SMTP_PASSWORD", "hunter2"), ("WEBHOOK_URL", a.text)] none =
        .ok (s.withSecrets "hunter2" a) ∧
      load [("SMTP_PASSWORD", "hunter3"), ("WEBHOOK_URL", b.text)] none =
        .ok (s.withSecrets "hunter3" b) ∧
      (s.withSecrets "hunter2" a).summary ≠ (s.withSecrets "hunter3" b).summary := by
  intro s a b
  have ha : a.IsAddress := by decide +kernel
  have hb : b.IsAddress := by decide +kernel
  exact ⟨ha, hb, by decide +kernel, by decide +kernel, by decide +kernel⟩

end UptimeAlert.Settings
