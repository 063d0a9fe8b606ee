namespace UptimeAlert

inductive Status where
  | up
  | down
  deriving DecidableEq, Repr

namespace Status

/-- The number that stands for a verdict in stored data. -/
def code : Status → Nat
  | .up => 1
  | .down => 0

def name : Status → String
  | .up => "UP"
  | .down => "DOWN"

def opposite : Status → Status
  | .up => .down
  | .down => .up

def ofCode? (n : Int) : Option Status :=
  if n = 1 then some .up else if n = 0 then some .down else none

/-- The verdict of a name in capitals. -/
def ofName? (name : List Char) : Option Status :=
  if name = ['U', 'P'] then some .up else if name = ['D', 'O', 'W', 'N'] then some .down else none

end Status

end UptimeAlert
