import UptimeAlert.Text.Digits

namespace UptimeAlert

open UptimeAlert.Text

def digitLimit : Nat := 4300

def IsShort (n : Int) : Prop :=
  (decimal n.natAbs).length ≤ digitLimit

instance (n : Int) : Decidable (IsShort n) :=
  inferInstanceAs (Decidable (_ ≤ _))

/-- The complaint about a number beyond the limit; its digits are counted only where it is read. -/
def digitLimitMessage (count : Option Nat) : String :=
  let found := match count with
    | some n => ": value has " ++ toString n ++ " digits"
    | none => ""
  "Exceeds the limit (4300 digits) for integer string conversion" ++ found ++
    "; use sys.set_int_max_str_digits() to increase the limit"

end UptimeAlert
