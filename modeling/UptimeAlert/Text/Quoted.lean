import UptimeAlert.Text.Digits
import UptimeAlert.Text.Printable

namespace UptimeAlert.Text

/-- The quotation mark that a text is put into. -/
def quoteMark (cs : List Char) : Char :=
  if cs.contains '\'' && !cs.contains '"' then '"' else '\''

/-- The escape of a code point, in the shortest of the three widths. -/
def escapeCode (n : Nat) : List Char :=
  if n < 0x100 then '\\' :: 'x' :: hex 2 n
  else if n < 0x10000 then '\\' :: 'u' :: hex 4 n
  else '\\' :: 'U' :: hex 8 n

/-- A character as it stands between quotation marks. -/
def escapeQuoted (mark c : Char) : List Char :=
  if c = mark || c = '\\' then ['\\', c]
  else if c = '\n' then ['\\', 'n']
  else if c = '\r' then ['\\', 'r']
  else if c = '\t' then ['\\', 't']
  else if isPrintable c then [c]
  else escapeCode c.toNat

def quote (cs : List Char) : List Char :=
  let mark := quoteMark cs
  mark :: cs.flatMap (escapeQuoted mark) ++ [mark]

end UptimeAlert.Text
