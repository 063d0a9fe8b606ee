import UptimeAlert.Calendar.Moment
import UptimeAlert.Number.Binary64
import UptimeAlert.Status

namespace UptimeAlert

/-- A shape of values that hold other values. -/
inductive Composite where
  | list
  | record
  deriving DecidableEq, Repr

/-- A value of any shape; a record keeps its fields in order. -/
inductive Value where
  | null
  | bool (b : Bool)
  | int (n : Int)
  | float (x : Binary64)
  | text (s : String)
  | list (items : List Value)
  | record (fields : List (String × Value))
  | moment (m : Moment)
  | status (s : Status)
  deriving Repr, Inhabited

namespace Value

/-- Whether a value counts as given: neither absent, nor false, nor zero, nor empty. -/
def isTruthy : Value → Bool
  | .null => false
  | .bool b => b
  | .int n => n != 0
  | .float x => !x.isZero
  | .text s => !s.toList.isEmpty
  | .list items => !items.isEmpty
  | .record fields => !fields.isEmpty
  | .moment _ => true
  | .status s => s == .up

/-- The value, or another one where it does not count as given. -/
def orElse (v other : Value) : Value :=
  if v.isTruthy then v else other

/-- The value, or another one where it is absent. -/
def ifNull (v other : Value) : Value :=
  match v with
  | .null => other
  | given => given

end Value

/-- Fields with their names, in order. -/
abbrev Fields := List (String × Value)

namespace Fields

/-- The value of a field. -/
def get? (fields : Fields) (name : String) : Option Value :=
  fields.lookup name

/-- The value of a field, absent where there is no such field. -/
def get (fields : Fields) (name : String) : Value :=
  (fields.get? name).getD .null

/-- The fields with one set: in its place if the name is there, at the end otherwise. -/
def put (fields : Fields) (name : String) (v : Value) : Fields :=
  match fields with
  | [] => [(name, v)]
  | (key, old) :: rest => if key = name then (name, v) :: rest else (key, old) :: put rest name v

end Fields

end UptimeAlert
