import UptimeAlert.Number.Binary64
import UptimeAlert.Text.Digits

namespace UptimeAlert.Number

open UptimeAlert.Text

/-- The digits that continue a number, without the underscores between them, and the rest. -/
def moreDigits : List Char → List Char × List Char
  | [] => ([], [])
  | c :: cs =>
    if isDigit c then
      let (digits, rest) := moreDigits cs
      (c :: digits, rest)
    else
      match c, cs with
      | '_', d :: ds =>
        if isDigit d then
          let (digits, rest) := moreDigits ds
          (d :: digits, rest)
        else ([], c :: cs)
      | _, _ => ([], c :: cs)

/-- The digits that a text begins with, and the rest. -/
def digitRun : List Char → List Char × List Char
  | [] => ([], [])
  | c :: cs =>
    if isDigit c then
      let (digits, rest) := moreDigits cs
      (c :: digits, rest)
    else ([], c :: cs)

def signed : List Char → Bool × List Char
  | '-' :: cs => (true, cs)
  | '+' :: cs => (false, cs)
  | cs => (false, cs)

/-- The exponent at the end of a number: zero where there is none. -/
def exponent? : List Char → Option Int
  | [] => some 0
  | c :: cs =>
    if c = 'e' || c = 'E' then
      let (negative, cs) := signed cs
      match digitRun cs with
      | ([], _) => none
      | (digits, []) => some (if negative then -(ofDigits digits : Int) else ofDigits digits)
      | _ => none
    else none

/-- The places after a point, if there is one, and the rest. -/
def places : List Char → List Char × List Char
  | '.' :: cs => digitRun cs
  | cs => ([], cs)

/-- A number without its sign: digits with at most one point among them, and an exponent. -/
def readMagnitude? (negative : Bool) (cs : List Char) : Option Binary64 :=
  let (whole, afterWhole) := digitRun cs
  let (fraction, rest) := places afterWhole
  if whole.isEmpty && fraction.isEmpty then none
  else
    (exponent? rest).map fun e =>
      Binary64.ofDecimal negative (ofDigits (whole ++ fraction)) (e - fraction.length)

/-- A floating-point number, read from a text without blanks around it. -/
def readFloat? (cs : List Char) : Option Binary64 :=
  let (negative, cs) := signed cs
  let word := String.ofList (cs.map lowerAscii)
  if word == "inf" || word == "infinity" then some (.infinity negative)
  else if word == "nan" then some .nan
  else readMagnitude? negative cs

/-- The sign and digits of a whole number, which may end in a point and zeros only. -/
def readWhole? (cs : List Char) : Option (Bool × List Char) :=
  let (negative, cs) := signed cs
  match digitRun cs with
  | ([], _) => none
  | (digits, []) => some (negative, digits)
  | (digits, '.' :: zeros) =>
    if !zeros.isEmpty && zeros.all (· = '0') then some (negative, digits) else none
  | _ => none

end UptimeAlert.Number
