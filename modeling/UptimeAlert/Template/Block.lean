import UptimeAlert.Status
import UptimeAlert.Template.Placeholder
import UptimeAlert.Text.Search

namespace UptimeAlert.Template.Block

open UptimeAlert.Text

/-- The marker that opens the block of a verdict. -/
def opening (s : Status) : List Char :=
  placeholder ("IF_".toList ++ s.name.toList)

def closing (s : Status) : List Char :=
  placeholder ("END_".toList ++ s.name.toList)

/-- Changes the inside of the first block of a verdict; a text without such a block stays as it is.
-/
def changeFirst (s : Status) (f : List Char → List Char) (text : List Char) : List Char :=
  match cut? (opening s) text with
  | none => text
  | some (before, rest) =>
    match cut? (closing s) rest with
    | none => text
    | some (inside, after) => before ++ f inside ++ after

def remove (s : Status) (text : List Char) : List Char :=
  changeFirst s (fun _ => []) text

/-- Removes the markers of the first block of a verdict. -/
def unwrap (s : Status) (text : List Char) : List Char :=
  changeFirst s id text

/-- Removes the block of the other verdict, then the markers of the block of this one. -/
def resolve (s : Status) (text : List Char) : List Char :=
  unwrap s (remove s.opposite text)

end UptimeAlert.Template.Block
