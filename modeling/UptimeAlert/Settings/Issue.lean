namespace UptimeAlert

inductive SettingsGroup where
  | template
  | mail
  | webhook
  deriving DecidableEq, Repr

namespace SettingsGroup

/-- All groups, in the order in which they are loaded. -/
def all : List SettingsGroup := [.template, .mail, .webhook]

def name : SettingsGroup → String
  | .template => "template"
  | .mail => "smtp"
  | .webhook => "webhook"

def title : SettingsGroup → String
  | .template => "TemplateSettings"
  | .mail => "SmtpSettings"
  | .webhook => "WebhookSettings"

end SettingsGroup

/-- Why the value of a field is refused. -/
inductive Complaint where
  | textExpected
  | wholeExpected
  | wholeUnreadable
  | wholeTooLong
  | wholeHasFraction
  | notFinite
  | flagExpected
  | flagUnreadable
  | numberExpected
  | numberUnreadable
  | notPositive
  | portOutOfRange
  | endpointExpected
  | unknownLevel
  | unknownName
  | groupExpected (group : SettingsGroup)
  deriving DecidableEq, Repr

def Complaint.message : Complaint → String
  | .textExpected => "Input should be a valid string"
  | .wholeExpected => "Input should be a valid integer"
  | .wholeUnreadable => "Input should be a valid integer, unable to parse string as an integer"
  | .wholeTooLong => "Unable to parse input string as an integer, exceeded maximum size"
  | .wholeHasFraction => "Input should be a valid integer, got a number with a fractional part"
  | .notFinite => "Input should be a finite number"
  | .flagExpected => "Input should be a valid boolean"
  | .flagUnreadable => "Input should be a valid boolean, unable to interpret input"
  | .numberExpected => "Input should be a valid number"
  | .numberUnreadable => "Input should be a valid number, unable to parse string as a number"
  | .notPositive => "Input should be greater than 0"
  | .portOutOfRange => "Value error, SMTP_PORT must be between 1 and 65535"
  | .endpointExpected => "Value error, WEBHOOK_URL must be an HTTP(S) endpoint"
  | .unknownLevel => "Input should be 'DEBUG', 'INFO', 'WARNING', 'ERROR' or 'CRITICAL'"
  | .unknownName => "Extra inputs are not permitted"
  | .groupExpected group =>
    "Input should be a valid dictionary or instance of " ++ group.title

/-- A complaint, with the place of the field that it is about: the group, where the whole group was
given at once, and the name. -/
structure Issue where
  location : List String
  complaint : Complaint
  deriving DecidableEq, Repr

namespace Issue

def place (i : Issue) : String :=
  ".".intercalate i.location

/-- The same issue, found within a group that was given at once. -/
def within (group : SettingsGroup) (i : Issue) : Issue :=
  { i with location := group.name :: i.location }

end Issue

/-- A value that passed all checks, or all that is wrong with it. -/
inductive Checked (α : Type) where
  | valid (a : α)
  | invalid (issues : List Issue)
  deriving Repr

namespace Checked

variable {α β : Type}

/-- All that is wrong with a value. -/
def issues : Checked α → List Issue
  | .valid _ => []
  | .invalid issues => issues

/-- The value under a function, where it is valid. -/
def map (f : α → β) : Checked α → Checked β
  | .valid a => .valid (f a)
  | .invalid issues => .invalid issues

/-- A function applied to its argument, both checked; the issues of both are told, in their order.
-/
def apply (f : Checked (α → β)) (x : Checked α) : Checked β :=
  match f, x with
  | .valid f, .valid a => .valid (f a)
  | f, x => .invalid (f.issues ++ x.issues)

instance : Functor Checked where
  map := map

instance : Applicative Checked where
  pure := .valid
  seq f x := f.apply (x ())

/-- The value with its issues placed within a group. -/
def within (group : SettingsGroup) : Checked α → Checked α
  | .valid a => .valid a
  | .invalid issues => .invalid (issues.map (Issue.within group))

/-- The value with further issues after its own. -/
def withIssues (x : Checked α) (more : List Issue) : Checked α :=
  match x, more with
  | .valid a, [] => .valid a
  | x, more => .invalid (x.issues ++ more)

theorem apply_eq_valid {f : Checked (α → β)} {x : Checked α} {b : β} :
    f.apply x = .valid b ↔ ∃ g a, f = .valid g ∧ x = .valid a ∧ g a = b := by
  cases f <;> cases x <;> simp [apply]

theorem seq_eq_valid {f : Checked (α → β)} {x : Checked α} {b : β} :
    f <*> x = .valid b ↔ ∃ g a, f = .valid g ∧ x = .valid a ∧ g a = b :=
  apply_eq_valid

end Checked

end UptimeAlert
