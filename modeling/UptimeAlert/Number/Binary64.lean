namespace UptimeAlert

/-- A floating-point number; all that is not a number is one value. -/
inductive Binary64 where
  | nan
  | infinity (negative : Bool)
  | finite (negative : Bool) (units : Nat)
  deriving DecidableEq, Repr

namespace Binary64

def one : Nat := Nat.pow 2 1074

/-- The least number of units that is too large to be finite. -/
def overflow : Nat := Nat.pow 2 2098

/-- The distance, as a power of two, between numbers with 53 bits around a magnitude. -/
def spacing (units : Nat) : Nat :=
  units.log2 - 52

/-- The whole number nearest to a quotient; a half goes to the even neighbour. -/
def roundQuotient (num den : Nat) : Nat :=
  let quotient := num / den
  let twice := 2 * (num % den)
  if twice < den || (twice = den && quotient % 2 = 0) then quotient else quotient + 1

/-- The number nearest to the quotient of two whole numbers, the second not zero. -/
def ofQuotient (negative : Bool) (num den : Nat) : Binary64 :=
  let step := spacing (num * one / den)
  let units := roundQuotient (num * one) (den * Nat.pow 2 step) * Nat.pow 2 step
  if units < overflow then .finite negative units else .infinity negative

/-- The number nearest to `digits` times a power of ten. Exponents beyond every magnitude are
answered without computing the power. -/
def ofDecimal (negative : Bool) (digits : Nat) (exponent : Int) : Binary64 :=
  if digits = 0 then .finite negative 0
  else
    let top := ((Nat.toDigits 10 digits).length : Int) + exponent
    if 310 < top then .infinity negative
    else if top < -330 then .finite negative 0
    else if 0 ≤ exponent then ofQuotient negative (digits * Nat.pow 10 exponent.toNat) 1
    else ofQuotient negative digits (Nat.pow 10 (-exponent).toNat)

/-- The number of a whole number of moderate size. -/
def ofNat (n : Nat) : Binary64 :=
  ofQuotient false n 1

/-- The whole number that a finite number equals, if it is one. -/
def toInt? : Binary64 → Option Int
  | .finite negative units =>
    if units % one = 0 then some (if negative then -(units / one : Nat) else (units / one : Nat))
    else none
  | _ => none

def isZero : Binary64 → Bool
  | .finite _ units => units == 0
  | _ => false

/-- Whether a number is greater than zero; what is not a number is not. -/
def isPositive : Binary64 → Bool
  | .finite negative units => !negative && units != 0
  | .infinity negative => !negative
  | .nan => false

end Binary64

end UptimeAlert
