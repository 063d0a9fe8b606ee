import UptimeAlert.Calendar.Date
import UptimeAlert.Text.Digits

namespace UptimeAlert

open UptimeAlert.Text

def dayMicros : Nat := 86400000000

/-- The reading of a clock that also shows the date. -/
structure WallTime where
  micros : Nat
  inRange : micros < Date.dayLimit * dayMicros
  deriving DecidableEq, Repr

/-- A point in time, told by the reading of a clock without an offset. -/
abbrev Instant := WallTime

structure Clock where
  hour : Nat
  minute : Nat
  second : Nat
  micro : Nat
  deriving DecidableEq, Repr

namespace Clock

/-- Whether a clock shows the reading. -/
def isValid (c : Clock) : Bool :=
  c.hour < 24 && c.minute < 60 && c.second < 60 && c.micro < 1000000

def toMicros (c : Clock) : Nat :=
  ((c.hour * 60 + c.minute) * 60 + c.second) * 1000000 + c.micro

def ofMicros (n : Nat) : Clock :=
  let seconds := n / 1000000
  ⟨seconds / 3600, seconds / 60 % 60, seconds % 60, n % 1000000⟩

end Clock

namespace WallTime

/-- The reading so many microseconds after the beginning of year 1, if it lies in the calendar. -/
def ofMicros? (micros : Int) : Option WallTime :=
  match micros with
  | .ofNat n => if h : n < Date.dayLimit * dayMicros then some ⟨n, h⟩ else none
  | .negSucc _ => none

def ofDay? (days : Nat) (clock : Clock) : Option WallTime :=
  if clock.isValid then ofMicros? (days * dayMicros + clock.toMicros : Nat) else none

/-- The reading so many microseconds later, or earlier if negative. -/
def shift? (w : WallTime) (micros : Int) : Option WallTime :=
  ofMicros? (w.micros + micros)

def date (w : WallTime) : Date :=
  Date.ofDays (w.micros / dayMicros)

def clock (w : WallTime) : Clock :=
  Clock.ofMicros (w.micros % dayMicros)

def clockText (c : Clock) : List Char :=
  padded 2 c.hour ++ ':' :: padded 2 c.minute ++ ':' :: padded 2 c.second

/-- Month and day, each after a hyphen. -/
def monthDayText (d : Date) : List Char :=
  '-' :: padded 2 d.month ++ '-' :: padded 2 d.day

/-- The interchange form: the year in four digits, and microseconds only where there are some. -/
def isoText (separator : Char) (w : WallTime) : List Char :=
  padded 4 w.date.year ++ monthDayText w.date ++ separator :: clockText w.clock ++
    (if w.clock.micro = 0 then [] else '.' :: padded 6 w.clock.micro)

/-- The form shown to readers: the year as it is, and whole milliseconds. -/
def timestamp (w : WallTime) : List Char :=
  decimal w.date.year ++ monthDayText w.date ++ ' ' :: clockText w.clock ++
    '.' :: padded 3 (w.clock.micro / 1000)

end WallTime

end UptimeAlert
