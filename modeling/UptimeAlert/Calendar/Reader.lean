import UptimeAlert.Calendar.Moment
import UptimeAlert.Text.Utf8

namespace UptimeAlert.Calendar.Reader

open UptimeAlert.Text

/-- The byte at a position, zero past the end. -/
def byteAt (s : List UInt8) (p : Nat) : UInt8 :=
  s.getD p 0

def code (c : Char) : UInt8 :=
  c.toNat.toUInt8

def isDigitByte (b : UInt8) : Bool :=
  code '0' ≤ b && b ≤ code '9'

/-- The number that `count` digits from a position on denote, if they are all digits. -/
def number? (s : List UInt8) (p : Nat) : (count : Nat) → Option Nat
  | 0 => some 0
  | count + 1 =>
    match number? s p count with
    | some n =>
      let b := byteAt s (p + count)
      if isDigitByte b then some (10 * n + (b.toNat - 48)) else none
    | none => none

/-- The bytes at the head of a list that are digits, counted. -/
def countDigits (bs : List UInt8) : Nat :=
  (bs.takeWhile isDigitByte).length

/-- Where the date ends, told from the length and a few characters. -/
def dateEnd? (s : List UInt8) : Option Nat :=
  let n := s.length
  if n < 7 then none
  else if n = 7 then some 7
  else if byteAt s 4 = code '-' then
    if byteAt s 5 = code 'W' then
      if 8 < n && byteAt s 8 = code '-' then
        if n = 9 then none
        else if 10 < n && isDigitByte (byteAt s 10) then some 8 else some 10
      else some 8
    else some 10
  else if byteAt s 4 = code 'W' then
    let p := 7 + countDigits (s.drop 7)
    if p < 9 then some p else if p % 2 = 0 then some 7 else some 8
  else some 8

/-- The position after a hyphen where the form requires one. -/
def skipHyphen? (extended : Bool) (s : List UInt8) (p : Nat) : Option Nat :=
  if !extended then some p else if byteAt s p = code '-' then some (p + 1) else none

/-- The day number of a week date; the day of the week may be absent. -/
def weekDate? (extended : Bool) (year : Nat) (s : List UInt8) (p stop : Nat) : Option Nat := do
  let week ← number? s p 2
  if p + 2 < stop then
    let q ← skipHyphen? extended s (p + 2)
    let day ← number? s q 1
    Date.ofWeek? year week day
  else Date.ofWeek? year week 1

/-- The day number of a calendar date. -/
def calendarDate? (extended : Bool) (year : Nat) (s : List UInt8) (p : Nat) : Option Nat := do
  let month ← number? s p 2
  let q ← skipHyphen? extended s (p + 2)
  let day ← number? s q 2
  let date : Date := ⟨year, month, day⟩
  if date.isValid then some date.toDays else none

/-- The day number of the date that ends at `stop`. -/
def date? (s : List UInt8) (stop : Nat) : Option Nat := do
  let year ← number? s 0 4
  let extended := byteAt s 4 = code '-'
  let p := if extended then 5 else 4
  if byteAt s p = code 'W' then weekDate? extended year s (p + 1) stop
  else calendarDate? extended year s p

/-- What follows a pair of digits of a time: its end, with or without something left over, a further
pair, or a fraction. -/
inductive Follow where
  | done (leftOver : Bool)
  | pair (position : Nat)
  | fraction (position : Nat)
  deriving DecidableEq, Repr

/-- What follows the pair of digits before position `p` of a time that ends at `stop`. -/
def follow? (s : List UInt8) (stop : Nat) (colons : Bool) (p : Nat) : Option Follow :=
  let c := byteAt s p
  if stop ≤ p + 1 then some (.done (c != 0))
  else if colons && c = code ':' then some (.pair (p + 1))
  else if c = code '.' || c = code ',' then some (.fraction (p + 1))
  else if !colons then some (.pair p)
  else none

/-- The microseconds of a fraction, of which six digits count, and whether something is left over
after all its digits. -/
def fraction? (s : List UInt8) (p stop : Nat) : Option (Nat × Bool) := do
  let count := min 6 (stop - p)
  let n ← number? s p count
  let after := p + count
  some (n * Nat.pow 10 (6 - count), byteAt s (after + countDigits (s.drop after)) != 0)

/-- The microseconds after the last pair of digits of a time, and whether something is left over. -/
def finish? (s : List UInt8) (stop : Nat) : Follow → Option (Nat × Bool)
  | .done leftOver => some (0, leftOver)
  | .pair p => fraction? s p stop
  | .fraction p => fraction? s p stop

/-- The time of day between two positions, its fields not limited, and whether something is left
over. -/
def clock? (s : List UInt8) (p stop : Nat) : Option (Clock × Bool) := do
  let hour ← number? s p 2
  let colons := byteAt s (p + 2) = code ':'
  match ← follow? s stop colons (p + 2) with
  | .pair q =>
    let minute ← number? s q 2
    match ← follow? s stop colons (q + 2) with
    | .pair r =>
      let second ← number? s r 2
      let (micro, leftOver) ← finish? s stop (← follow? s stop colons (r + 2))
      some (⟨hour, minute, second, micro⟩, leftOver)
    | last =>
      let (micro, leftOver) ← finish? s stop last
      some (⟨hour, minute, 0, micro⟩, leftOver)
  | last =>
    let (micro, leftOver) ← finish? s stop last
    some (⟨hour, 0, 0, micro⟩, leftOver)

/-- Whether a byte opens the offset of a time. -/
def opensOffset (b : UInt8) : Bool :=
  b = code '+' || b = code '-' || b = code 'Z'

/-- The offset that a clock is behind or ahead by. Less than a second counts as none. -/
def offsetOf? (behind : Bool) (clock : Clock) : Option Offset :=
  if clock.toMicros < 1000000 then some Offset.zero
  else Offset.ofMicros? (if behind then -(clock.toMicros : Int) else clock.toMicros)

/-- The offset that begins at a position and takes the rest of the text. -/
def offset? (s : List UInt8) (p : Nat) : Option Offset := do
  if byteAt s p = code 'Z' then
    if byteAt s (p + 1) = 0 then some Offset.zero else none
  else
    let (clock, leftOver) ← clock? s (p + 1) s.length
    if leftOver then none else offsetOf? (byteAt s p = code '-') clock

/-- The time of day and the offset that begin at a position. -/
def time? (s : List UInt8) (p : Nat) : Option (Clock × Option Offset) := do
  let stop := p + ((s.drop p).takeWhile fun b => !opensOffset b).length
  let (clock, leftOver) ← clock? s p stop
  if stop = s.length then if leftOver then none else some (clock, none)
  else
    let offset ← offset? s stop
    some (clock, some offset)

/-- The bytes of the character that opens with a byte. -/
def widthAt (lead : UInt8) : Nat :=
  if lead < 0x80 then 1 else if lead < 0xE0 then 2 else if lead < 0xF0 then 3 else 4

/-- A date-time read from bytes. A date alone stands for its midnight. -/
def readBytes? (s : List UInt8) : Option Moment := do
  let stop ← dateEnd? s
  let days ← date? s stop
  if s.length ≤ stop then
    let wall ← WallTime.ofDay? days ⟨0, 0, 0, 0⟩
    some ⟨wall, none⟩
  else
    let (clock, offset) ← time? s (stop + widthAt (byteAt s stop))
    let wall ← WallTime.ofDay? days clock
    some ⟨wall, offset⟩

/-- A date-time read from a text. -/
def read? (cs : List Char) : Option Moment :=
  readBytes? (Utf8.encode cs)

end UptimeAlert.Calendar.Reader
