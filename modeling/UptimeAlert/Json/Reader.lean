import UptimeAlert.Json.Fault
import UptimeAlert.Text.WideUnits
import UptimeAlert.Value.Basic
import UptimeAlert.Text.Digits

namespace UptimeAlert.Json

open UptimeAlert.Text

def isSpace (c : Char) : Bool :=
  c = ' ' || c = '\t' || c = '\n' || c = '\r'

/-- The text without the blanks that it begins with. -/
def skipSpace (cs : List Char) : List Char :=
  cs.dropWhile isSpace

/-- The unit that four hexadecimal digits denote. -/
def hexUnit? : List Char → Option Nat
  | a :: b :: c :: d :: _ => do
    let a ← hexValue? a
    let b ← hexValue? b
    let c ← hexValue? c
    let d ← hexValue? d
    some (((a * 16 + b) * 16 + c) * 16 + d)
  | _ => none

/-- The character of a one-letter escape. -/
def shortEscape? (c : Char) : Option Char :=
  match c with
  | '"' => some '"'
  | '\\' => some '\\'
  | '/' => some '/'
  | 'b' => some '\x08'
  | 'f' => some '\x0C'
  | 'n' => some '\n'
  | 'r' => some '\r'
  | 't' => some '\t'
  | _ => none

/-- The character of a unit whose digits a text begins with, together with that of a second escape
if the two are a surrogate pair, and the length of what was read. Something has to follow each
escape. -/
def unicodeEscape (unit : Nat) (rest : List Char) : Except Fault (Char × Nat) :=
  match rest with
  | '\\' :: 'u' :: digits =>
    if isHighSurrogate unit && 4 < digits.length then
      match hexUnit? digits with
      | none => .error (.at .invalidUnicodeEscape (digits.length + 1))
      | some low =>
        if isLowSurrogate low then .ok (Char.ofNat (surrogatePair unit low), 11)
        else .ok (loneUnit unit, 5)
    else .ok (loneUnit unit, 5)
  | _ => .ok (loneUnit unit, 5)

/-- The character of the escape after a backslash, and how many characters after the backslash it
takes. The first number is the place of the quotation mark that opened the text. -/
def escape (opening : Nat) : List Char → Except Fault (Char × Nat)
  | [] => .error (.at .unterminatedString opening)
  | 'u' :: digits =>
    match if 4 < digits.length then hexUnit? digits else none with
    | none => .error (.at .invalidUnicodeEscape (digits.length + 1))
    | some unit => unicodeEscape unit (digits.drop 4)
  | c :: rest =>
    match shortEscape? c with
    | some e => .ok (e, 1)
    | none => .error (.at .invalidEscape (rest.length + 2))

/-- The text up to the next quotation mark, and what follows that; the second number counts the
characters of an escape that are still to be passed over. -/
def readText (opening : Nat) : Nat → List Char → Except Fault (List Char × List Char)
  | _, [] => .error (.at .unterminatedString opening)
  | k + 1, _ :: cs => readText opening k cs
  | 0, c :: cs =>
    if c = '"' then .ok ([], cs)
    else if c = '\\' then
      match escape opening cs with
      | .error fault => .error fault
      | .ok (e, length) => (readText opening length cs).map fun (text, rest) => (e :: text, rest)
    else if c.toNat < 0x20 then .error (.at .controlCharacter (cs.length + 1))
    else (readText opening 0 cs).map fun (text, rest) => (c :: text, rest)

def digits (cs : List Char) : List Char × List Char :=
  cs.span isDigit

/-- The digits before a point: no zero before other ones. -/
def wholeDigits? (cs : List Char) : Option (List Char × List Char) :=
  match cs with
  | [] => none
  | c :: rest =>
    if c = '0' then some (['0'], rest) else if isDigit c then some (digits cs) else none

/-- The places of a number, if a point and a digit follow, and the rest. -/
def placesOf (cs : List Char) : List Char × List Char :=
  match cs with
  | '.' :: rest =>
    match digits rest with
    | ([], _) => ([], cs)
    | read => read
  | _ => ([], cs)

/-- The sign and digits of an exponent, if there is one with a digit, and the rest. -/
def exponentOf (cs : List Char) : Option Int × List Char :=
  match cs with
  | [] => (none, cs)
  | e :: signed =>
    if e = 'e' || e = 'E' then
      let (negative, unsigned) := match signed with
        | '-' :: rest => (true, rest)
        | '+' :: rest => (false, rest)
        | rest => (false, rest)
      match digits unsigned with
      | ([], _) => (none, cs)
      | (ds, rest) => (some (if negative then -(ofDigits ds : Int) else ofDigits ds), rest)
    else (none, cs)

/-- A whole number, if its digits are not too many. -/
def wholeNumber (negative : Bool) (ds : List Char) : Except Fault Value :=
  if digitLimit < ds.length then .error (.tooManyDigits ds.length)
  else .ok (.int (if negative then -(ofDigits ds : Int) else ofDigits ds))

/-- The number that a text begins with, its sign already read, and the rest. The first number is the
place where it began. -/
def readNumber (place : Nat) (negative : Bool) (cs : List Char) :
    Except Fault (Value × List Char) :=
  match wholeDigits? cs with
  | none => .error (.at .expectingValue place)
  | some (whole, afterWhole) =>
    let (places, afterPlaces) := placesOf afterWhole
    let (exponent, rest) := exponentOf afterPlaces
    if places.isEmpty && exponent.isNone then (wholeNumber negative whole).map fun v => (v, rest)
    else
      let x := Binary64.ofDecimal negative (ofDigits (whole ++ places))
        (exponent.getD 0 - places.length)
      .ok (.float x, rest)

def words : List (List Char × Value) :=
  [("null".toList, .null), ("true".toList, .bool true), ("false".toList, .bool false),
    ("NaN".toList, .float .nan), ("Infinity".toList, .float (.infinity false)),
    ("-Infinity".toList, .float (.infinity true))]

/-- The word that a text begins with, as its value, and the rest. -/
def readWord? (cs : List Char) : Option (Value × List Char) :=
  words.findSome? fun (word, v) => (word.isPrefixOf? cs).map fun rest => (v, rest)

/-- The word or number that a text begins with, and the rest. -/
def readAtom (cs : List Char) : Except Fault (Value × List Char) :=
  match readWord? cs with
  | some read => .ok read
  | none =>
    match cs with
    | '-' :: rest => readNumber cs.length true rest
    | _ => readNumber cs.length false cs

mutual

/-- The value that a text begins with, and the rest. The first number bounds the steps, the second
one how deep lists and records may lie; a list or record that lies deeper is refused where it
begins. -/
def readValue : Nat → Nat → List Char → Except Fault (Value × List Char)
  | 0, _, cs => .error (.at .expectingValue cs.length)
  | n + 1, room, cs =>
    match cs, room with
    | '"' :: rest, _ =>
      (readText cs.length 0 rest).map fun (t, rest) => (.text (String.ofList t), rest)
    | '[' :: _, 0 => .error (.tooDeep .list)
    | '[' :: rest, room + 1 =>
      match skipSpace rest with
      | ']' :: rest => .ok (.list [], rest)
      | rest => (readItems n room rest).map fun (items, rest) => (.list items, rest)
    | '{' :: _, 0 => .error (.tooDeep .record)
    | '{' :: rest, room + 1 =>
      match skipSpace rest with
      | '}' :: rest => .ok (.record [], rest)
      | rest => (readFields n room [] rest).map fun (fields, rest) => (.record fields, rest)
    | _, _ => readAtom cs

def readItems : Nat → Nat → List Char → Except Fault (List Value × List Char)
  | 0, _, cs => .error (.at .expectingValue cs.length)
  | n + 1, room, cs =>
    match readValue n room cs with
    | .error fault => .error fault
    | .ok (v, rest) =>
      match skipSpace rest with
      | ']' :: rest => .ok ([v], rest)
      | ',' :: rest => (readItems n room (skipSpace rest)).map fun (vs, rest) => (v :: vs, rest)
      | rest => .error (.at .expectingComma rest.length)

/-- The fields of a record up to its closing brace, added to those already read, and what follows
that. -/
def readFields : Nat → Nat → Fields → List Char → Except Fault (Fields × List Char)
  | 0, _, _, cs => .error (.at .expectingName cs.length)
  | n + 1, room, fields, cs =>
    match cs with
    | '"' :: rest =>
      match readText cs.length 0 rest with
      | .error fault => .error fault
      | .ok (name, rest) =>
        match skipSpace rest with
        | ':' :: rest =>
          match readValue n room (skipSpace rest) with
          | .error fault => .error fault
          | .ok (v, rest) =>
            let fields := fields.put (String.ofList name) v
            match skipSpace rest with
            | '}' :: rest => .ok (fields, rest)
            | ',' :: rest => readFields n room fields (skipSpace rest)
            | rest => .error (.at .expectingComma rest.length)
        | rest => .error (.at .expectingColon rest.length)
    | _ => .error (.at .expectingName cs.length)

end

/-- The value of a whole text, which may have blanks around it; the number is how deep lists and
records may lie. -/
def read (room : Nat) (cs : List Char) : Except Fault Value :=
  match readValue (2 * cs.length + 2) room (skipSpace cs) with
  | .error fault => .error fault
  | .ok (v, rest) =>
    match skipSpace rest with
    | [] => .ok v
    | rest => .error (.at .extraData rest.length)

/-- The value of a whole text that must not begin with a byte order mark. -/
def readUnmarked (room : Nat) (cs : List Char) : Except Fault Value :=
  if cs.head? = some '\uFEFF' then .error (.at .byteOrderMark cs.length) else read room cs

end UptimeAlert.Json
