import UptimeAlert.Text.WideUnits
import UptimeAlert.Value.Display

namespace UptimeAlert.Json

open UptimeAlert.Text

/-- The escape of a unit of sixteen bits. -/
def unitEscape (u : Nat) : List Char :=
  '\\' :: 'u' :: hex 4 u

/-- A character in the text of a value. -/
def escapeChar (c : Char) : List Char :=
  if c = '"' then ['\\', '"']
  else if c = '\\' then ['\\', '\\']
  else if c = '\n' then ['\\', 'n']
  else if c = '\r' then ['\\', 'r']
  else if c = '\t' then ['\\', 't']
  else if c = '\x0C' then ['\\', 'f']
  else if c = '\x08' then ['\\', 'b']
  else if ' ' ≤ c && c ≤ '~' then [c]
  else if c.toNat < 0x10000 then unitEscape c.toNat
  else
    let n := c.toNat - 0x10000
    unitEscape (0xD800 + n / 1024) ++ unitEscape (0xDC00 + n % 1024)

/-- A text in quotation marks. -/
def writeText (cs : List Char) : List Char :=
  '"' :: cs.flatMap escapeChar ++ ['"']

/-- A floating-point number, with words of its own for what is not finite. -/
def writeFloat : Binary64 → List Char
  | .nan => "NaN".toList
  | .infinity false => "Infinity".toList
  | .infinity true => "-Infinity".toList
  | x => x.format

mutual

def write : Value → List Char
  | .null => "null".toList
  | .bool true => "true".toList
  | .bool false => "false".toList
  | .int n => signedDecimal n
  | .float x => writeFloat x
  | .text s => writeText s.toList
  | .list items => '[' :: commaSeparated (writeItems items) ++ [']']
  | .record fields => '{' :: commaSeparated (writeFields fields) ++ ['}']
  | .moment m => writeText (Value.moment m).display
  | .status s => decimal s.code

def writeItems : List Value → List (List Char)
  | [] => []
  | v :: vs => write v :: writeItems vs

def writeFields : List (String × Value) → List (List Char)
  | [] => []
  | (name, v) :: rest => (writeText name.toList ++ ':' :: ' ' :: write v) :: writeFields rest

end

def write? (v : Value) : Option (List Char) :=
  if v.isWritable then some (write v) else none

end UptimeAlert.Json
