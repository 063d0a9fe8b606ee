import UptimeAlert.Number.Shortest
import UptimeAlert.Text.Digits

namespace UptimeAlert.Binary64

open UptimeAlert.Text

/-- Digits with the point after the first `point` of them, at least one place after it. -/
def positional (digits : List Char) (point : Int) : List Char :=
  if point ≤ 0 then '0' :: '.' :: (List.replicate (-point).toNat '0' ++ digits)
  else if (digits.length : Int) ≤ point then
    digits ++ List.replicate (point.toNat - digits.length) '0' ++ ['.', '0']
  else digits.take point.toNat ++ '.' :: digits.drop point.toNat

/-- Digits with the point after the first one and an exponent of ten. -/
def scientific (digits : List Char) (exponent : Int) : List Char :=
  let mantissa := match digits with
    | first :: second :: rest => first :: '.' :: second :: rest
    | short => short
  mantissa ++ 'e' :: (if exponent < 0 then '-' else '+') :: padded 2 exponent.natAbs

def magnitudeText (units : Nat) : List Char :=
  if units = 0 then ['0', '.', '0']
  else
    let d := shortest units
    let digits := decimal d.digits
    let point := (digits.length : Int) + d.exponent
    if -4 < point && point ≤ 16 then positional digits point else scientific digits (point - 1)

def format : Binary64 → List Char
  | .nan => ['n', 'a', 'n']
  | .infinity negative => (if negative then ['-'] else []) ++ ['i', 'n', 'f']
  | .finite negative units => (if negative then ['-'] else []) ++ magnitudeText units

end UptimeAlert.Binary64
