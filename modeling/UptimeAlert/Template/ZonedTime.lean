import UptimeAlert.Platform
import UptimeAlert.Template.Placeholder
import UptimeAlert.Text.Search

namespace UptimeAlert.Template.ZonedTime

open UptimeAlert.Text

variable [Platform]

def lead : List Char := "\x7b\x7bTIME:".toList

def timePlaceholder (zone : List Char) : List Char :=
  lead ++ zone ++ ['}', '}']

/-- The zone named by the time placeholder that a text begins with: all up to the first closing
brace, which another one has to follow. -/
def zoneAt? (cs : List Char) : Option (List Char) :=
  match lead.isPrefixOf? cs with
  | none => none
  | some rest =>
    let zone := rest.takeWhile (· != '}')
    if !zone.isEmpty && ['}', '}'].isPrefixOf (rest.drop zone.length) then some zone else none

/-- The zones named in a text from left to right; the number counts the characters of a placeholder
that are still to be passed over. -/
def zonesFrom : Nat → List Char → List (List Char)
  | _, [] => []
  | k + 1, _ :: cs => zonesFrom k cs
  | 0, c :: cs =>
    match zoneAt? (c :: cs) with
    | some zone => zone :: zonesFrom ((timePlaceholder zone).length - 1) cs
    | none => zonesFrom 0 cs

/-- The distinct zones named in a text, in the order of their first mention. -/
def zonesIn (text : List Char) : List (List Char) :=
  (zonesFrom 0 text).eraseDups

/-- An instant on a clock of the named zone, if the zone is known and its clock can show it. -/
def show? (i : Instant) (zone : List Char) : Option (List Char) :=
  ((Platform.zone? (String.ofList zone)).bind (·.wallTime? i)).map WallTime.timestamp

def replaceZone (i : Instant) (text zone : List Char) : List Char :=
  match show? i zone with
  | none => text
  | some time => replaceAll (timePlaceholder zone) time text

def localize (i : Instant) (text : List Char) : List Char :=
  (zonesIn text).foldl (replaceZone i) text

/-- The zones named in a text whose placeholders stay. -/
def skipped (i : Instant) (text : List Char) : List (List Char) :=
  (zonesIn text).filter fun zone => (show? i zone).isNone

end UptimeAlert.Template.ZonedTime
