import UptimeAlert.Number.DigitLimit
import UptimeAlert.Value.Basic

namespace UptimeAlert.Json

inductive Problem where
  | expectingValue
  | expectingName
  | expectingColon
  | expectingComma
  | extraData
  | unterminatedString
  | controlCharacter
  | invalidEscape
  | invalidUnicodeEscape
  | byteOrderMark
  deriving DecidableEq, Repr

def Problem.message : Problem → String
  | .expectingValue => "Expecting value"
  | .expectingName => "Expecting property name enclosed in double quotes"
  | .expectingColon => "Expecting ':' delimiter"
  | .expectingComma => "Expecting ',' delimiter"
  | .extraData => "Extra data"
  | .unterminatedString => "Unterminated string starting at"
  | .controlCharacter => "Invalid control character at"
  | .invalidEscape => "Invalid \\escape"
  | .invalidUnicodeEscape => "Invalid \\uXXXX escape"
  | .byteOrderMark => "Unexpected UTF-8 BOM (decode using utf-8-sig)"

/-- A fault: a problem at a place, which is told by the number of characters from it to the end; or
a whole number with too many digits; or a list or record that lies too deep. -/
inductive Fault where
  | at (problem : Problem) (remaining : Nat)
  | tooManyDigits (count : Nat)
  | tooDeep (shape : Composite)
  deriving DecidableEq, Repr

/-- The line and the column of a position, both from 1. -/
def lineAndColumn (before : List Char) : Nat × Nat :=
  (before.count '\n' + 1, (before.reverse.takeWhile (· != '\n')).length + 1)

def tooDeepMessage (shape : Composite) : String :=
  let kind := match shape with
    | .list => "array"
    | .record => "object"
  "maximum recursion depth exceeded while decoding a JSON " ++ kind ++ " from a unicode string"

def Fault.message (text : List Char) : Fault → String
  | .at problem remaining =>
    let position := text.length - remaining
    let (line, column) := lineAndColumn (text.take position)
    problem.message ++ ": line " ++ toString line ++ " column " ++ toString column ++
      " (char " ++ toString position ++ ")"
  | .tooManyDigits count => digitLimitMessage (some count)
  | .tooDeep shape => tooDeepMessage shape

end UptimeAlert.Json
