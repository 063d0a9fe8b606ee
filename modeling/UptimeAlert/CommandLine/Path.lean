import UptimeAlert.Text.Search

namespace UptimeAlert.CommandLine

open UptimeAlert.Text

/-- A path: the slashes that it begins with, if it does not begin in the working folder, and its
names. -/
structure Path where
  root : String
  names : List String
  deriving DecidableEq, Repr

namespace Path

/-- The slashes that a path begins with: two are kept, any other number counts as one. -/
def rootOf (cs : List Char) : String :=
  match (cs.takeWhile (· = '/')).length with
  | 0 => ""
  | 2 => "//"
  | _ => "/"

def ofString (s : String) : Path where
  root := rootOf s.toList
  names :=
    ((splitAt '/' s.toList).filter fun name => !name.isEmpty && name != ['.']).map String.ofList

/-- The text of a path; a single point for the working folder. -/
def text (p : Path) : String :=
  if p.root.isEmpty && p.names.isEmpty then "." else p.root ++ "/".intercalate p.names

end Path

end UptimeAlert.CommandLine
