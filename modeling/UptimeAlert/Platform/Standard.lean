import UptimeAlert.Calendar.ZoneTable
import UptimeAlert.Platform
import UptimeAlert.Text.Search
import UptimeAlert.Text.Utf8

namespace UptimeAlert

open UptimeAlert.Text

namespace Charset

/-- A set in which each byte is a character or nothing. A byte that is nothing stays as it is. -/
def ofBytes (char? : UInt8 → Option Char) : Charset := fun bytes =>
  some (bytes.flatMap fun b => ((char? b).map fun c => Utf8.encode [c]).getD [b])

/-- The set in which every byte is the character of its number. -/
def latin1 (b : UInt8) : Option Char :=
  some (Char.ofNat b.toNat)

/-- The western set with the euro sign. -/
def latin9 (b : UInt8) : Option Char :=
  match b with
  | 0xA4 => '€'
  | 0xA6 => 'Š'
  | 0xA8 => 'š'
  | 0xB4 => 'Ž'
  | 0xB8 => 'ž'
  | 0xBC => 'Œ'
  | 0xBD => 'œ'
  | 0xBE => 'Ÿ'
  | b => latin1 b

/-- The characters of the code page 1252 from the byte 0x80 on; a blank marks a byte that is none.
-/
def page1252Signs : List Char :=
  "€ ‚ƒ„…†‡ˆ‰Š‹Œ Ž  ‘’“”•–—˜™š›œ žŸ".toList

def page1252 (b : UInt8) : Option Char :=
  match if b < 0x80 then none else page1252Signs[b.toNat - 0x80]? with
  | some c => if c = ' ' then none else some c
  | none => latin1 b

/-- A name in small letters, with an underscore between its parts. -/
def foldName (name : List Char) : List Char :=
  let signs := name.map fun c => if c.isAlphanum then lowerAscii c else '_'
  ['_'].intercalate ((Text.splitAt '_' signs).filter (· ≠ []))

def byteSets : List (List String × (UInt8 → Option Char)) := [
  (["8859", "cp819", "csisolatin1", "ibm819", "iso8859", "iso8859_1", "iso_8859_1",
    "iso_8859_1_1987", "iso_ir_100", "l1", "latin", "latin1", "latin_1"], latin1),
  (["iso8859_15", "iso_8859_15", "l9", "latin9"], latin9),
  (["1252", "cp1252", "windows_1252"], page1252)]

/-- The set of a name, in any spelling. The bytes of sets without an entry are taken as they are. -/
def find? (name : List Char) : Option Charset :=
  (byteSets.find? fun entry => entry.1.contains (String.ofList (foldName name))).map fun entry =>
    ofBytes entry.2

end Charset

theorem Zone.plain_of_find? {name : String} {z : Zone} (h : Zone.find? name = some z) :
    name ≠ "" ∧ '{' ∉ name.toList ∧ '}' ∉ name.toList ∧ ' ' ∉ name.toList := by
  have hplain : ∀ entry ∈ Zone.table, entry.1 ≠ "" ∧
      '{' ∉ entry.1.toList ∧ '}' ∉ entry.1.toList ∧ ' ' ∉ entry.1.toList := by decide
  obtain ⟨before, after, htable, -⟩ := List.lookup_eq_some_iff.mp h
  exact hplain (name, z) (by simp [htable])

/-- The platform with the zones of the table. -/
instance standard : Platform where
  zone? := Zone.find?
  charset? := Charset.find?
  nesting := 960
  plain_of_zone? := Zone.plain_of_find?

end UptimeAlert
