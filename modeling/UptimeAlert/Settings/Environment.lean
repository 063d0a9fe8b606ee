import UptimeAlert.Text.Digits

namespace UptimeAlert

open UptimeAlert.Text

/-- Variables and their values, in order. -/
abbrev Environment := List (String × String)

namespace Environment

/-- The environment with a variable set: in its place if it is there, at the end otherwise. -/
def set (env : Environment) (name value : String) : Environment :=
  match env with
  | [] => [(name, value)]
  | (key, old) :: rest =>
    if key = name then (name, value) :: rest else (key, old) :: set rest name value

def unset (env : Environment) (name : String) : Environment :=
  env.filter fun (key, _) => key != name

/-- A small letter for a capital one. Besides the ASCII letters only the Kelvin sign has an ASCII
letter as its small form. -/
def foldChar (c : Char) : Char :=
  if c = '\u212A' then 'k' else lowerAscii c

/-- A name without regard to case. -/
def fold (name : String) : List Char :=
  name.toList.map foldChar

/-- The value of a variable, its name taken without regard to case; of several the last one counts.
-/
def find? (env : Environment) (name : String) : Option String :=
  (env.reverse.find? fun (key, _) => fold key == fold name).map Prod.snd

end Environment

end UptimeAlert
