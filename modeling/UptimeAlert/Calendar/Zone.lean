import UptimeAlert.Calendar.Moment

namespace UptimeAlert

/-- A yearly local time: the `week`-th weekday `day` of a month, counted from Sunday as 0, the fifth
being the last; the time counts from midnight and may be negative or longer than a day. -/
structure YearlyTime where
  month : Nat
  week : Nat
  day : Nat
  time : Int
  deriving DecidableEq, Repr

/-- How a zone goes on after its listed changes. -/
inductive ZoneRule where
  | fixed (offset : Int)
  | seasonal (standard daylight : Int) (start finish : YearlyTime)
  deriving DecidableEq, Repr

/-- A time zone: its offset before the first change, the changes with the offsets that they bring
in, and the rule after them. -/
structure Zone where
  before : Int
  changes : List (Nat × Int)
  after : ZoneRule
  deriving DecidableEq, Repr

namespace YearlyTime

/-- The day of the month that the time falls on in a year. -/
def dayOfMonth (t : YearlyTime) (year : Nat) : Nat :=
  let first := Date.weekday (Date.toDays ⟨year, t.month, 1⟩)
  let day := (t.day + 13 - first) % 7 + 1 + (t.week - 1) * 7
  if Date.daysInMonth year t.month < day then day - 7 else day

/-- The local time in a year, in seconds since the beginning of year 1. -/
def inYear (t : YearlyTime) (year : Nat) : Int :=
  (Date.toDays ⟨year, t.month, t.dayOfMonth year⟩ * 86400 : Nat) + t.time

end YearlyTime

namespace ZoneRule

/-- The offset at an instant that lies in a year. Summer time that starts late in the year lasts
into the next one. -/
def offsetAt (rule : ZoneRule) (year second : Nat) : Int :=
  match rule with
  | .fixed offset => offset
  | .seasonal standard daylight start finish =>
    let begins := start.inYear year - standard
    let ends := finish.inYear year - daylight
    let isDaylight :=
      if begins < ends then begins ≤ second && second < ends else second < ends || begins ≤ second
    if isDaylight then daylight else standard

end ZoneRule

namespace Zone

/-- The offset that the last change at or before an instant brought in, `current` before the first
one; nothing after the last change of the list. -/
def listedOffset? (second : Nat) (current : Int) : List (Nat × Int) → Option Int
  | [] => none
  | [(time, offset)] =>
    if second < time then some current else if second = time then some offset else none
  | (time, offset) :: changes =>
    if second < time then some current else listedOffset? second offset changes

/-- The offset in force at an instant, in seconds. -/
def offsetAt (z : Zone) (i : Instant) : Int :=
  let second := i.micros / 1000000
  (listedOffset? second z.before z.changes).getD (z.after.offsetAt i.date.year second)

/-- The reading of a clock of the zone at an instant, if it lies in the calendar. -/
def wallTime? (z : Zone) (i : Instant) : Option WallTime :=
  i.shift? (z.offsetAt i * 1000000)

end Zone

end UptimeAlert
