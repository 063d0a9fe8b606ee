import UptimeAlert.Text.Blank
import UptimeAlert.Value.Display

namespace UptimeAlert

/-- A fault of rendering: the type of the monitor cannot be looked up among the known ones, or a
value cannot be written. -/
inductive RenderFault where
  | compositeType (shape : Composite)
  | tooManyDigits
  deriving DecidableEq, Repr

def RenderFault.message : RenderFault → String
  | .compositeType .list => "unhashable type: 'list'"
  | .compositeType .record => "unhashable type: 'dict'"
  | .tooManyDigits => digitLimitMessage none

/-- Why a template is not rendered. -/
inductive RenderError where
  | invalidStatus (value : Value)
  | fault (f : RenderFault)
  deriving Repr

def RenderError.message : RenderError → String
  | .invalidStatus v => "Invalid heartbeat status: " ++ String.ofList v.quoted
  | .fault f => f.message

/-- What is written of a value, if that can be written. -/
def Value.ifWritable {α : Type} (v : Value) (written : α) : Except RenderError α :=
  if v.isWritable then .ok written else .error (.fault .tooManyDigits)

namespace Status

open UptimeAlert.Text

/-- The verdict that a value stands for: itself, its number, or its name in any case with blanks
around it. A truth value is no verdict. -/
def ofValue? : Value → Option Status
  | .status s => some s
  | .int n => ofCode? n
  | .text s => ofName? ((strip s.toList).map upperAscii)
  | _ => none

/-- What is wrong with a value that is no verdict. The error names the value, if it can be written.
-/
def refusal (v : Value) : RenderError :=
  if v.isWritable then .invalidStatus v else .fault .tooManyDigits

/-- The verdict that a value stands for, or what is wrong with it. -/
def ofValue (v : Value) : Except RenderError Status :=
  match ofValue? v with
  | some s => .ok s
  | none => .error (refusal v)

end Status

end UptimeAlert
