namespace UptimeAlert

/-- A year, a month from 1 and a day of the month from 1. -/
structure Date where
  year : Nat
  month : Nat
  day : Nat
  deriving DecidableEq, Repr

namespace Date

/-- Whether February has 29 days. -/
def isLeap (year : Nat) : Bool :=
  year % 4 = 0 && (year % 100 != 0 || year % 400 = 0)

def monthLengths (year : Nat) : List Nat :=
  [31, if isLeap year then 29 else 28, 31, 30, 31, 30, 31, 31, 30, 31, 30, 31]

/-- The days of a month; none outside 1 to 12. -/
def daysInMonth (year month : Nat) : Nat :=
  if month = 0 then 0 else (monthLengths year).getD (month - 1) 0

def daysBeforeYear (year : Nat) : Nat :=
  let years := year - 1
  365 * years + years / 4 - years / 100 + years / 400

/-- The days of the months before a month of the same year. -/
def daysBeforeMonth (year month : Nat) : Nat :=
  ((monthLengths year).take (month - 1)).foldl (· + ·) 0

/-- The days up to the end of the year 9999. -/
def dayLimit : Nat := 3652059

def isValid (d : Date) : Bool :=
  1 ≤ d.year && d.year ≤ 9999 && 1 ≤ d.day && d.day ≤ daysInMonth d.year d.month

def toDays (d : Date) : Nat :=
  daysBeforeYear d.year + daysBeforeMonth d.year d.month + (d.day - 1)

/-- The month and day that a day of the year falls into, the lengths of the months given; the first
number counts the months passed. -/
def inMonth : Nat → List Nat → Nat → Nat × Nat
  | passed, length :: lengths, day =>
    if day < length then (passed + 1, day + 1) else inMonth (passed + 1) lengths (day - length)
  | passed, [], day => (passed, day + 1)

/-- The date with a given number of days before it: cycles of 400, 100, 4 and 1 years, the last
century of a cycle and the last year of four being the longer ones. -/
def ofDays (days : Nat) : Date :=
  let inCycle := days % 146097
  let century := min (inCycle / 36524) 3
  let inCentury := inCycle - century * 36524
  let inFour := inCentury % 1461
  let yearOfFour := min (inFour / 365) 3
  let year := 400 * (days / 146097) + 100 * century + 4 * (inCentury / 1461) + yearOfFour + 1
  let (month, day) := inMonth 0 (monthLengths year) (inFour - yearOfFour * 365)
  ⟨year, month, day⟩

/-- The day of the week of a day number, from 0 for Monday. -/
def weekday (days : Nat) : Nat :=
  days % 7

/-- The day number of the Monday of a year's first week, the week that holds January 4. In year 1 it
is the very first day. -/
def firstMonday (year : Nat) : Nat :=
  let fourth := daysBeforeYear year + 3
  fourth - weekday fourth

/-- Whether a year has 53 weeks. -/
def hasLongWeekYear (year : Nat) : Bool :=
  let first := weekday (daysBeforeYear year)
  first = 3 || (first = 2 && isLeap year)

/-- The day number of a day given by week and weekday, both from 1. -/
def ofWeek? (year week day : Nat) : Option Nat :=
  if 1 ≤ year && year ≤ 9999 && 1 ≤ week && (week ≤ 52 || (week = 53 && hasLongWeekYear year)) &&
      1 ≤ day && day ≤ 7 then
    let days := firstMonday year + (week - 1) * 7 + (day - 1)
    if days < dayLimit then some days else none
  else none

end Date

end UptimeAlert
