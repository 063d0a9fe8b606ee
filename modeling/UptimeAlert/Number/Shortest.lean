import UptimeAlert.Number.Binary64

namespace UptimeAlert.Binary64

/-- A decimal: digits as a whole number, times a power of ten. -/
structure Decimal where
  digits : Nat
  exponent : Int
  deriving DecidableEq, Repr

/-- Four times the ends of the interval that rounds to a magnitude; the second tells whether the
ends belong to it. -/
structure Interval where
  low : Nat
  high : Nat
  closed : Bool

/-- The interval that rounds to a positive magnitude. Below a power of two the numbers lie twice as
close. -/
def interval (units : Nat) : Interval :=
  let step := spacing units
  let isPower := units == Nat.pow 2 units.log2
  let below := if isPower && 0 < step then Nat.pow 2 step else 2 * Nat.pow 2 step
  ⟨4 * units - below, 4 * units + 2 * Nat.pow 2 step, units / Nat.pow 2 step % 2 = 0⟩

/-- Four times a decimal in units, as a quotient of whole numbers. -/
def Decimal.quarters (d : Decimal) : Nat × Nat :=
  if 0 ≤ d.exponent then (4 * d.digits * one * Nat.pow 10 d.exponent.toNat, 1)
  else (4 * d.digits * one, Nat.pow 10 (-d.exponent).toNat)

def Interval.contains (i : Interval) (d : Decimal) : Bool :=
  let (num, den) := d.quarters
  if i.closed then i.low * den ≤ num && num ≤ i.high * den
  else i.low * den < num && num < i.high * den

/-- The number of digits that a positive magnitude has before the point; zero or less below a tenth
of one. -/
def magnitude (units : Nat) : Int :=
  ((Nat.toDigits 10 (units * Nat.pow 5 1074)).length : Int) - 1074

/-- The neighbour at or below a magnitude on the grid of a power of ten. -/
def floorOn (units : Nat) (exponent : Int) : Decimal :=
  if 0 ≤ exponent then ⟨units / (one * Nat.pow 10 exponent.toNat), exponent⟩
  else ⟨units * Nat.pow 10 (-exponent).toNat / one, exponent⟩

/-- The neighbour of a magnitude with `count` digits that rounds to it: the nearer one if both do,
and at the same distance the even one. -/
def onGrid? (units count : Nat) : Option Decimal :=
  let below := floorOn units (magnitude units - count)
  let above := { below with digits := below.digits + 1 }
  let within := interval units
  match within.contains below, within.contains above with
  | true, true =>
    let middle : Decimal := ⟨2 * below.digits + 1, below.exponent⟩
    let (num, den) := middle.quarters
    let twice := 8 * units * den
    if twice < num || (twice = num && below.digits % 2 = 0) then some below else some above
  | true, false => some below
  | false, true => some above
  | false, false => none

/-- Removes the zeros at the end of the digits; the first number bounds their count. -/
def Decimal.normalizeWith : Nat → Decimal → Decimal
  | 0, d => d
  | n + 1, d =>
    if d.digits % 10 = 0 && d.digits != 0 then normalizeWith n ⟨d.digits / 10, d.exponent + 1⟩
    else d

/-- The shortest decimal that rounds to a positive magnitude. Seventeen digits always suffice. -/
def shortest (units : Nat) : Decimal :=
  let counts := (List.range 17).map (· + 1)
  (((counts.filterMap (onGrid? units)).head?).getD
    (floorOn units (magnitude units - 17))).normalizeWith 17

end UptimeAlert.Binary64
