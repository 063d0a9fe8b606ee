import UptimeAlert.Mail.Address.Spec

namespace UptimeAlert.Mail

open UptimeAlert.Text

variable [Platform]

/-- A name and an address; empty angle brackets hold none. -/
structure Mailbox where
  name : Option (List Part)
  spec : Option AddressSpec
  deriving DecidableEq, Repr

/-- Passes over commas, blanks and comments; the number bounds their count. -/
def skipCommas : Nat → List Char → List Char
  | 0, cs => cs
  | n + 1, cs =>
    if beginsWith opensBlank cs then skipCommas n (blanks? cs).2
    else if beginsWith (· = ',') cs then skipCommas n (cs.drop 1)
    else cs

/-- Passes over further domains of a route; the number bounds their count. -/
def skipDomains : Nat → List Char → Except Stop (List Char)
  | n + 1, ',' :: cs =>
    if cs.isEmpty then .ok []
    else
      match (blanks? cs).2 with
      | [] => .error (.fault .textMissing)
      | '@' :: cs => do
        let (_, rest) ← domain cs
        skipDomains n rest
      | cs => skipDomains n cs
  | _, cs => .ok cs

/-- Passes over a route: domains after at signs, up to a colon. -/
def skipRoute (cs : List Char) : Except Stop (List Char) := do
  match skipCommas cs.length cs with
  | '@' :: cs =>
    let (_, rest) ← domain cs
    match ← skipDomains rest.length rest with
    | ':' :: rest => return rest
    | _ => .error .mismatch
  | _ => .error .mismatch

/-- An address after an opening angle bracket, and the closing one if it is there. A route may come
before the address. -/
def angled (cs : List Char) : Except Stop (Option AddressSpec × List Char) :=
  match cs with
  | [] => .error (.fault .textMissing)
  | '>' :: rest => .ok (none, rest)
  | cs => do
    let (spec, rest) ← match addressSpec cs with
      | .error .mismatch => (skipRoute cs).bind addressSpec
      | read => read
    let rest := if beginsWith (· = '>') rest then rest.drop 1 else rest
    return (some spec, (blanks? rest).2)

/-- An address in angle brackets, with blanks before it. -/
def angleAddress (cs : List Char) : Except Stop (Option AddressSpec × List Char) :=
  match (blanks? cs).2 with
  | '<' :: rest => angled rest
  | _ => .error .mismatch

/-- The parts of a name with blanks before the first one. A period cannot take them. -/
def withBlanks (before : Option (List Char)) : List Part → Except Stop (List Part)
  | .word w :: parts => .ok (.word { w with before := before.or w.before } :: parts)
  | .dot :: parts => if before.isSome then .error (.fault .dotAfterBlank) else .ok (.dot :: parts)
  | parts => .ok parts

/-- An address in angle brackets, which may have a name. -/
def namedAddress (cs : List Char) : Except Stop (Mailbox × List Char) := do
  let (before, cs) := blanks? cs
  if beginsWith (· = '<') cs then
    let (spec, rest) ← angleAddress cs
    return (⟨none, spec⟩, rest)
  else if cs.isEmpty || beginsWith endsPhrase cs then .error .mismatch
  else
    let (parts, rest) ← phrase cs
    if rest.isEmpty then .error .mismatch
    let parts ← withBlanks before parts
    let (spec, rest) ← angleAddress rest
    return (⟨some parts, spec⟩, rest)

/-- Whether the domain of a mailbox lacks its closing bracket. -/
def Mailbox.isUnclosed (m : Mailbox) : Bool :=
  ((m.spec.bind AddressSpec.domain).map Domain.isUnclosed).getD false

/-- A mailbox: an address in angle brackets, or one alone. -/
def mailbox (cs : List Char) : Except Stop (Mailbox × List Char) := do
  let (m, rest) ← match namedAddress cs with
    | .error .mismatch => (addressSpec cs).map fun (spec, rest) => (⟨none, some spec⟩, rest)
    | read => read
  if m.isUnclosed then .error (.fault .literalUnclosed)
  return (m, rest)

def withoutLeadingBlanks : List Part → Except AddressFault (List Part)
  | .blanks _ :: parts => .ok parts
  | .word w :: parts => .ok (.word { w with before := none } :: parts)
  | .dot :: _ => .error .dotBesideName
  | parts => .ok parts

/-- A name without the blanks after its last part; there has to be one. -/
def withoutTrailingBlanks (parts : List Part) : Except AddressFault (List Part) :=
  match parts.getLast? with
  | none => .error .partMissing
  | some (.blanks _) => .ok parts.dropLast
  | some (.word w) => .ok (parts.dropLast ++ [.word { w with after := none }])
  | some .dot => .error .dotBesideName
  | some .backslash => .ok parts

def Part.text : Part → List Char
  | .word w => w.value true true
  | .dot => ['.']
  | .blanks _ => [' ']
  | .backslash => ['\\']

def nameText (parts : List Part) : Except AddressFault (List Char) :=
  if parts.isEmpty then .ok []
  else do
    let parts ← withoutLeadingBlanks parts
    let parts ← withoutTrailingBlanks parts
    return parts.flatMap Part.text

/-- A text in double quotes if it holds a character of a class. -/
def quotedIf (p : Char → Bool) (cs : List Char) : List Char :=
  if cs.any p then doubleQuoted cs else cs

/-- An address written out; an empty one as a pair of angle brackets. -/
def specText (localPart domain : List Char) : List Char :=
  let localPart := quotedIf (fun c => endsAtom c && c != '.') localPart
  if !domain.isEmpty then localPart ++ '@' :: domain
  else if localPart.isEmpty then ['<', '>']
  else localPart

/-- A name and an address written out; a name needs the angle brackets. -/
def entryText (name localPart domain : List Char) : Except AddressFault (List Char) :=
  if (name ++ localPart ++ domain).any fun c => c = '\r' || c = '\n' then .error .lineBreak
  else
    let spec := specText localPart domain
    let name := quotedIf isSpecial name
    if name.isEmpty then .ok spec
    else .ok (name ++ ' ' :: '<' :: (if spec = ['<', '>'] then [] else spec) ++ ['>'])

def Mailbox.text (m : Mailbox) : Except AddressFault (List Char) := do
  let name ← ((m.name.map nameText).getD (.ok []))
  let localPart ← (m.spec.map fun spec => spec.localPart.text).getD (.ok [])
  let domain := ((m.spec.bind AddressSpec.domain).map Domain.text).getD []
  entryText name localPart domain

end UptimeAlert.Mail
