import UptimeAlert.Log
import UptimeAlert.Number.DigitLimit
import UptimeAlert.Number.Reader
import UptimeAlert.Settings.Environment
import UptimeAlert.Settings.Issue
import UptimeAlert.Text.Blank
import UptimeAlert.Text.Search
import UptimeAlert.Value.Basic

namespace UptimeAlert.Settings

open UptimeAlert.Text

def setWords : List String := ["1", "true", "t", "yes", "y", "on"]

def unsetWords : List String := ["0", "false", "f", "no", "n", "off"]

def readText : Value → Except Complaint String
  | .text s => .ok s
  | _ => .error .textExpected

def readOptional : Value → Except Complaint (Option String)
  | .null => .ok none
  | v => (readText v).map some

/-- A whole number from a text with white space around it. -/
def wholeOfText (s : String) : Except Complaint Int :=
  match Number.readWhole? (trim isWhiteSpace s.toList) with
  | none => .error .wholeUnreadable
  | some (negative, digits) =>
    if digitLimit < digits.length then .error .wholeTooLong
    else .ok (if negative then -(ofDigits digits : Int) else ofDigits digits)

/-- A whole number; flags stand for zero and one. -/
def readWhole : Value → Except Complaint Int
  | .int n => .ok n
  | .bool b => .ok b.toNat
  | .text s => wholeOfText s
  | .float (.finite negative units) =>
    match (Binary64.finite negative units).toInt? with
    | some n => .ok n
    | none => .error .wholeHasFraction
  | .float _ => .error .notFinite
  | _ => .error .wholeExpected

def flagOfText (s : String) : Except Complaint Bool :=
  let word := String.ofList (s.toList.map lowerAscii)
  if setWords.contains word then .ok true
  else if unsetWords.contains word then .ok false
  else .error .flagUnreadable

def flagOfWhole (n : Int) : Except Complaint Bool :=
  if n = 1 then .ok true else if n = 0 then .ok false else .error .flagUnreadable

/-- A flag; zero and one stand for flags. -/
def readFlag : Value → Except Complaint Bool
  | .bool b => .ok b
  | .text s => flagOfText s
  | .int n => flagOfWhole n
  | .float x =>
    match x.toInt? with
    | some n => flagOfWhole n
    | none => .error .flagExpected
  | _ => .error .flagExpected

/-- A number; flags stand for zero and one. -/
def readNumber : Value → Except Complaint Binary64
  | .float x => .ok x
  | .bool b => .ok (Binary64.ofNat b.toNat)
  | .int n =>
    match Binary64.ofDecimal (n < 0) n.natAbs 0 with
    | .infinity _ => .error .numberExpected
    | x => .ok x
  | .text s =>
    match Number.readFloat? (trim isWhiteSpace s.toList) with
    | some x => .ok x
    | none => .error .numberUnreadable
  | _ => .error .numberExpected

def require {α : Type} (condition : α → Bool) (complaint : Complaint) (a : α) :
    Except Complaint α :=
  if condition a then .ok a else .error complaint

/-- Where the fields of a group come from: from what was given for the group, and otherwise from the
environment. -/
structure Source where
  given : Fields
  env : Environment

def Source.value? (s : Source) (name : String) : Option Value :=
  match s.given.get? name with
  | some v => some v
  | none => (s.env.find? name).map .text

/-- A field under a reader; the default stands where it is not set. -/
def Source.field {α : Type} (s : Source) (name : String) (default : α)
    (read : Value → Except Complaint α) : Checked α :=
  match s.value? name with
  | none => .valid default
  | some v =>
    match read v with
    | .ok a => .valid a
    | .error complaint => .invalid [⟨[name], complaint⟩]

def Source.optional (s : Source) (name : String) : Checked (Option String) :=
  s.field name none readOptional

end UptimeAlert.Settings
