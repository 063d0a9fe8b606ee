import UptimeAlert.Calendar.WallTime

namespace UptimeAlert

open UptimeAlert.Text

/-- The lead of a clock in microseconds, less than a day either way. -/
structure Offset where
  micros : Int
  inRange : micros.natAbs < dayMicros
  deriving DecidableEq, Repr

namespace Offset

def zero : Offset := ⟨0, by decide⟩

/-- The lead of so many microseconds, if it is less than a day. -/
def ofMicros? (micros : Int) : Option Offset :=
  if h : micros.natAbs < dayMicros then some ⟨micros, h⟩ else none

def isoText (o : Offset) : List Char :=
  let c := Clock.ofMicros o.micros.natAbs
  (if o.micros < 0 then '-' else '+') :: padded 2 c.hour ++ ':' :: padded 2 c.minute ++
    (if c.second = 0 && c.micro = 0 then [] else ':' :: padded 2 c.second) ++
    (if c.micro = 0 then [] else '.' :: padded 6 c.micro)

end Offset

structure Moment where
  wall : WallTime
  offset : Option Offset
  deriving DecidableEq, Repr

namespace Moment

/-- The instant of a date-time, if it lies in the calendar. -/
def instant? (m : Moment) : Option Instant :=
  match m.offset with
  | none => some m.wall
  | some o => m.wall.shift? (-o.micros)

def isoTextWith (separator : Char) (m : Moment) : List Char :=
  m.wall.isoText separator ++ (m.offset.map Offset.isoText).getD []

def isoText (m : Moment) : List Char :=
  m.isoTextWith 'T'

/-- The date-time that shows an instant at no offset. -/
def ofInstant (i : Instant) : Moment :=
  ⟨i, some Offset.zero⟩

end Moment

end UptimeAlert
