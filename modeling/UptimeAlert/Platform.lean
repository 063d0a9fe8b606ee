import UptimeAlert.Calendar.Zone

namespace UptimeAlert

/-- A set of characters: the bytes of UTF-8 that stand for bytes of the set, if it can read them. -/
abbrev Charset := List UInt8 → Option (List UInt8)

/-- What the program finds where it runs. -/
class Platform where
  /-- The time zones, by their names. -/
  zone? : String → Option Zone
  /-- The sets of characters, by their names. -/
  charset? : List Char → Option Charset
  /-- How many lists and records may lie within one another in a JSON text. -/
  nesting : Nat
  /-- A zone has a name, and there are neither braces nor blanks in it. -/
  plain_of_zone? {name : String} {z : Zone} (h : zone? name = some z) :
    name ≠ "" ∧ '{' ∉ name.toList ∧ '}' ∉ name.toList ∧ ' ' ∉ name.toList

end UptimeAlert
