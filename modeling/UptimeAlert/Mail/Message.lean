import UptimeAlert.Mail.Address.List
import UptimeAlert.Mail.HeaderText
import UptimeAlert.Text.Lines

namespace UptimeAlert.Mail

open UptimeAlert.Text

variable [Platform]

inductive Header where
  | sender
  | recipients
  | copies
  | blindCopies
  | subject
  deriving DecidableEq, Repr

def Header.name : Header → String
  | .sender => "From"
  | .recipients => "To"
  | .copies => "Cc"
  | .blindCopies => "Bcc"
  | .subject => "Subject"

/-- A mail, its headers in the order in which they were set. -/
structure Message where
  headers : List (Header × String)
  content : String
  deriving DecidableEq, Repr

/-- Why a header is not set: its value has several lines, or is a malformed list of addresses. -/
inductive HeaderError where
  | severalLines
  | address (fault : AddressFault)
  deriving DecidableEq, Repr

def HeaderError.message : HeaderError → String
  | .severalLines => "Header values may not contain linefeed or carriage return characters"
  | .address fault => fault.message

def addressHeader (h : Header) (value : String) : Except HeaderError (Header × String) :=
  if 1 < (splitLines value.toList).length then .error .severalLines
  else
    match addressList value.toList with
    | .ok text => .ok (h, String.ofList text)
    | .error fault => .error (.address fault)

/-- A header with addresses, if there is a value that is not empty. -/
def optionalHeader (h : Header) (value : Option String) :
    Except HeaderError (List (Header × String)) :=
  match value with
  | none => .ok []
  | some value => if value.isEmpty then .ok [] else (addressHeader h value).map ([·])

/-- The header with the subject, whose value is a single line. -/
def subjectHeader (value : String) : Header × String :=
  (.subject, String.ofList (HeaderText.read value.toList))

/-- The header with the subject, which like any other is refused if its value has several lines. -/
def setSubject (value : String) : Except HeaderError (Header × String) :=
  if 1 < (splitLines value.toList).length then .error .severalLines else .ok (subjectHeader value)

/-- The text of a mail as it is read back: all lines end in line feeds, the last one too. -/
def contentOf (body : String) : String :=
  let text := unifyBreaks body.toList
  String.ofList (if text.getLast? = some '\n' then text else text ++ ['\n'])

end UptimeAlert.Mail
