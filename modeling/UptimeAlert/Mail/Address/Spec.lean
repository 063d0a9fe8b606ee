import UptimeAlert.Mail.Address.Word

namespace UptimeAlert.Mail

open UptimeAlert.Text

variable [Platform]

/-- A local part: one word, or words, periods and blanks in any order. -/
inductive LocalPart where
  | plain (w : Word)
  | irregular (parts : List Part)
  deriving DecidableEq, Repr

/-- A domain without blanks; one in brackets may lack the closing one. -/
structure Domain where
  text : List Char
  isUnclosed : Bool
  deriving DecidableEq, Repr

/-- A local part and a domain. -/
structure AddressSpec where
  localPart : LocalPart
  domain : Option Domain
  deriving DecidableEq, Repr

/-- Whether the next part other than blanks is a period; the end counts as one. -/
def beforeDot : List Part → Bool
  | [] => true
  | .dot :: _ => true
  | .blanks _ :: parts => beforeDot parts
  | _ => false

/-- The meaning of an irregular local part: blanks around periods and at the ends are dropped,
others count as one space; the flag tells whether a period came last. -/
def irregularText : Bool → List Part → List Char
  | _, [] => []
  | afterDot, .blanks _ :: parts => irregularText afterDot parts
  | _, .dot :: parts => '.' :: irregularText true parts
  | _, .backslash :: parts => '\\' :: irregularText false parts
  | afterDot, .word w :: parts =>
    w.value (!afterDot) (!beforeDot parts) ++ irregularText false parts

def LocalPart.text : LocalPart → Except AddressFault (List Char)
  | .plain w => if w.core.isHollow then .error .partMissing else .ok w.core.value
  | .irregular parts => .ok (irregularText true parts)

def dottedText (cs : List Char) : Except Stop (Core × List Char) :=
  let run := cs.takeWhile fun c => !endsAtom c || c = '.'
  if (splitAt '.' run).any List.isEmpty then .error .mismatch
  else .ok (.atom run, cs.drop run.length)

/-- Dotted atoms or an encoded word, with blanks around them. -/
def dottedAtom (cs : List Char) : Except Stop (Word × List Char) :=
  surrounded (fun cs => Stop.orElse (encodedWord cs) (dottedText cs)) cs

/-- The parts of an irregular local part; the number bounds their count. -/
def irregularParts : Nat → List Char → Except Stop (List Part × List Char)
  | 0, cs => .ok ([], cs)
  | _, [] => .ok ([], [])
  | n + 1, c :: cs =>
    if endsPhrase c && c != '\\' then .ok ([], c :: cs)
    else do
      let (part, rest) ←
        if c = '.' then .ok (.dot, cs)
        else if c = '\\' then .ok (.backslash, cs)
        else wordOrBlanks (c :: cs)
      let (parts, rest) ← irregularParts n rest
      return (part :: parts, rest)

/-- An irregular local part, which has to hold more than blanks. -/
def irregular (cs : List Char) : Except Stop (LocalPart × List Char) := do
  let (parts, rest) ← irregularParts cs.length cs
  match parts with
  | [] => .error (.fault .partMissing)
  | [.blanks _] => .error (.fault .partMissing)
  | parts => return (.irregular parts, rest)

/-- The word that a local part begins with; none before a backslash or a period. -/
def leadingWord (cs : List Char) : Except Stop (Option Word × List Char) :=
  match Stop.orElse (dottedAtom cs) (word cs) with
  | .ok (w, rest) => .ok (some w, rest)
  | .error .mismatch =>
    if beginsWith (fun c => c != '\\' && endsPhrase c) cs then .error .mismatch else .ok (none, cs)
  | .error stop => .error stop

/-- A local part. Where something follows its first word, all is read again as an irregular one,
from the written form of the word. -/
def localPart (cs : List Char) : Except Stop (LocalPart × List Char) := do
  if cs.isEmpty then .error (.fault .textMissing)
  let (before, cs) := blanks? cs
  if cs.isEmpty then .error .mismatch
  let (w?, rest) ← leadingWord cs
  if beginsWith (fun c => c = '\\' || !endsPhrase c) rest then
    irregular (before.getD [] ++ (w?.map Word.written).getD [] ++ rest)
  else
    match w? with
    | some w => return (.plain w, rest)
    | none => .error .mismatch

/-- The inside and the end of a domain in brackets. -/
def bracketed (cs : List Char) : Except Stop (Domain × List Char) :=
  if cs.isEmpty then .ok (⟨[], true⟩, [])
  else
    let cs := if beginsWith isSpaceOrTab cs then cs.dropWhile isBlank else cs
    if cs.isEmpty then .error (.fault .literalEmpty)
    else
      let (text, rest) := unescaped (fun c => c = '[' || c = ']') false cs
      match if beginsWith isSpaceOrTab rest then rest.dropWhile isBlank else rest with
      | [] => .ok (⟨[], true⟩, [])
      | ']' :: rest => .ok (⟨'[' :: text.filter (!isBlank ·) ++ [']'], false⟩, (blanks? rest).2)
      | _ => .error .mismatch

/-- Further atoms of a domain, each after a period; the number bounds their count. -/
def moreAtoms : Nat → List Char → Except Stop (List Char × List Char)
  | n + 1, '.' :: cs => do
    let (w, rest) ← atom cs
    let (more, rest) ← moreAtoms n rest
    return ('.' :: w.core.value ++ more, rest)
  | _, cs => .ok ([], cs)

/-- A domain: dotted atoms, or a text in brackets. -/
def domain (cs : List Char) : Except Stop (Domain × List Char) := do
  if cs.isEmpty then .error (.fault .textMissing)
  let (_, cs) := blanks? cs
  match cs with
  | [] => .error .mismatch
  | '[' :: inside => bracketed inside
  | cs =>
    let (w, rest) ← Stop.orElse (dottedAtom cs) (atom cs)
    if beginsWith (· = '@') rest then .error .mismatch
    let (more, rest) ← moreAtoms rest.length rest
    return (⟨(w.core.value ++ more).filter (!isBlank ·), false⟩, rest)

/-- A local part and, if an at sign follows, a domain. -/
def addressSpec (cs : List Char) : Except Stop (AddressSpec × List Char) := do
  let (localPart, rest) ← localPart cs
  match rest with
  | '@' :: rest =>
    let (domain, rest) ← domain rest
    return (⟨localPart, some domain⟩, rest)
  | rest => return (⟨localPart, none⟩, rest)

end UptimeAlert.Mail
