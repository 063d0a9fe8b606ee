import UptimeAlert.Number.DigitLimit
import UptimeAlert.Number.Format
import UptimeAlert.Text.Quoted
import UptimeAlert.Text.Search
import UptimeAlert.Value.Basic

namespace UptimeAlert.Value

open UptimeAlert.Text

mutual

/-- Whether all whole numbers of a value are within the limit, so that it can be written. -/
def isWritable : Value → Bool
  | .int n => decide (IsShort n)
  | .list items => areWritable items
  | .record fields => fieldsWritable fields
  | _ => true

/-- Whether all items of a list can be written. -/
def areWritable : List Value → Bool
  | [] => true
  | v :: vs => isWritable v && areWritable vs

/-- Whether all fields of a record can be written. -/
def fieldsWritable : List (String × Value) → Bool
  | [] => true
  | (_, v) :: rest => isWritable v && fieldsWritable rest

end

def boolName (b : Bool) : List Char :=
  if b then "True".toList else "False".toList

/-- The offset of a date-time spelled out: days below zero, seconds and microseconds, each only
where it is not zero. -/
def quotedOffset (o : Offset) : List Char :=
  if o.micros = 0 then "datetime.timezone.utc".toList
  else
    let days := Int.fdiv o.micros dayMicros
    let rest := (o.micros - days * dayMicros).toNat
    let part (label : String) (n : Int) : List (List Char) :=
      if n = 0 then [] else [label.toList ++ '=' :: signedDecimal n]
    "datetime.timezone(datetime.timedelta(".toList ++
      commaSeparated
        (part "days" days ++ part "seconds" (rest / 1000000 : Nat) ++
          part "microseconds" (rest % 1000000 : Nat)) ++
      "))".toList

/-- A date-time spelled out; seconds and microseconds only where they are not zero. -/
def quotedMoment (m : Moment) : List Char :=
  let d := m.wall.date
  let c := m.wall.clock
  let tail :=
    if c.micro != 0 then [c.second, c.micro] else if c.second != 0 then [c.second] else []
  let numbers := ([d.year, d.month, d.day, c.hour, c.minute] ++ tail).map decimal
  let zone := m.offset.toList.map fun o => "tzinfo=".toList ++ quotedOffset o
  "datetime.datetime(".toList ++ commaSeparated (numbers ++ zone) ++ [')']

def quotedStatus (s : Status) : List Char :=
  "<HeartbeatStatus.".toList ++ s.name.toList ++ ':' :: ' ' :: decimal s.code ++ ['>']

mutual

/-- The text of a value inside another one or in a message. -/
def quoted : Value → List Char
  | .null => "None".toList
  | .bool b => boolName b
  | .int n => signedDecimal n
  | .float x => x.format
  | .text s => quote s.toList
  | .list items => '[' :: commaSeparated (quotedItems items) ++ [']']
  | .record fields => '{' :: commaSeparated (quotedFields fields) ++ ['}']
  | .moment m => quotedMoment m
  | .status s => quotedStatus s

def quotedItems : List Value → List (List Char)
  | [] => []
  | v :: vs => quoted v :: quotedItems vs

def quotedFields : List (String × Value) → List (List Char)
  | [] => []
  | (key, v) :: rest => (quote key.toList ++ ':' :: ' ' :: quoted v) :: quotedFields rest

end

/-- The text of a value by itself. -/
def display : Value → List Char
  | .text s => s.toList
  | .moment m => m.isoTextWith ' '
  | .status s => decimal s.code
  | other => quoted other

end UptimeAlert.Value
