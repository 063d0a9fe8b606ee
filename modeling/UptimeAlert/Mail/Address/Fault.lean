namespace UptimeAlert.Mail

/-- A malformed list of addresses that reading breaks off at. -/
inductive AddressFault where
  | lineBreak
  | textMissing
  | partMissing
  | literalUnclosed
  | literalEmpty
  | dotBesideName
  | dotAfterBlank
  | textAfterGroup
  deriving DecidableEq, Repr

/-- The wording of a fault. -/
def AddressFault.message : AddressFault → String
  | .lineBreak => "invalid arguments; address parts cannot contain CR or LF"
  | .textMissing => "string index out of range"
  | .partMissing => "list index out of range"
  | .literalUnclosed => "'InvalidHeaderDefect' object has no attribute 'all_defects'"
  | .literalEmpty => "cannot access local variable 'pos' where it is not associated with a value"
  | .dotBesideName => "'str' object has no attribute 'token_type'"
  | .dotAfterBlank => "'ValueTerminal' object does not support item assignment"
  | .textAfterGroup => "'Group' object has no attribute 'local_part'"

end UptimeAlert.Mail
