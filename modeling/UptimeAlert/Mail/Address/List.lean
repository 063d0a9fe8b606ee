import UptimeAlert.Mail.Address.Mailbox

namespace UptimeAlert.Mail

open UptimeAlert.Text

variable [Platform]

inductive Entry where
  | mailbox (m : Option Mailbox)
  | group (name : List Part) (members : List (Option Mailbox))
  | groupWithTextAfter (name : List Part)
  deriving DecidableEq, Repr

/-- Passes over text up to an ending character; the number bounds its length. -/
def skipInvalid (ends : Char → Bool) : Nat → List Char → Except Stop (List Char)
  | 0, cs => .ok cs
  | _, [] => .ok []
  | n + 1, c :: cs =>
    if ends c then .ok (c :: cs)
    else if endsPhrase c then skipInvalid ends n cs
    else do
      let (_, rest) ← phrase (c :: cs)
      skipInvalid ends n rest

def skipTo (ends : Char → Bool) (cs : List Char) : Except Stop (List Char) :=
  skipInvalid ends cs.length cs

/-- What stands in place of an entry that is not read: nothing, before an ending character;
otherwise an absent mailbox. -/
def unreadEntry (ends : Char → Bool) (cs : List Char) :
    Except Stop (List (Option Mailbox) × List Char) :=
  let rest := (blanks? cs).2
  if rest.isEmpty || beginsWith ends rest then .ok ([], rest)
  else (skipTo ends rest).map fun rest => ([none], rest)

/-- Whether a character ends a member of a group. -/
def endsMember (c : Char) : Bool :=
  c = ',' || c = ';'

/-- The members of a group up to a semicolon; the number bounds their count. -/
def groupMembers : Nat → List Char → Except Stop (List (Option Mailbox) × List Char)
  | 0, cs => .ok ([], cs)
  | n + 1, cs =>
    if cs.isEmpty || beginsWith (· = ';') cs then .ok ([], cs)
    else do
      let (members, rest) ← match mailbox cs with
        | .error .mismatch => unreadEntry endsMember cs
        | read => read.map fun (m, rest) => ([some m], rest)
      let rest ← skipTo endsMember rest
      let rest := if beginsWith (· = ',') rest then rest.drop 1 else rest
      let (more, rest) ← groupMembers n rest
      return (members ++ more, rest)

def group (cs : List Char) : Except Stop (Entry × List Char) := do
  match ← phrase cs with
  | (name, ':' :: ';' :: rest) => return (.group name [], rest)
  | (name, ':' :: rest) =>
    let rest := (blanks? rest).2
    let (members, rest) ← groupMembers rest.length rest
    return (.group name members, (blanks? (rest.drop 1)).2)
  | _ => .error .mismatch

/-- An entry: a group or a mailbox. -/
def entry (cs : List Char) : Except Stop (Entry × List Char) :=
  match group cs with
  | .error .mismatch => (mailbox cs).map fun (m, rest) => (.mailbox (some m), rest)
  | read => read

/-- An entry that more text follows. -/
def Entry.withTextAfter : Entry → Entry
  | .group name _ => .groupWithTextAfter name
  | other => other

/-- The entries of a list; the number bounds their count. -/
def entries : Nat → List Char → Except Stop (List Entry)
  | 0, _ => .ok []
  | n + 1, cs =>
    if cs.isEmpty then .ok []
    else do
      let (found, rest) ← match entry cs with
        | .error .mismatch =>
          (unreadEntry (· = ',') cs).map fun (ms, rest) => (ms.map Entry.mailbox, rest)
        | read => read.map fun (e, rest) => ([e], rest)
      let found :=
        if rest.isEmpty || beginsWith (· = ',') rest then found else found.map Entry.withTextAfter
      let rest ← skipTo (· = ',') rest
      let more ← entries n (rest.drop 1)
      return found ++ more

/-- A mailbox of a list written out; an absent one like an empty address. -/
def mailboxText : Option Mailbox → Except AddressFault (List Char)
  | some m => m.text
  | none => entryText [] [] []

def Entry.text : Entry → Except AddressFault (List Char)
  | .mailbox m => mailboxText m
  | .group name members => do
    let name ← nameText name
    let members ← members.mapM mailboxText
    let listed := commaSeparated members
    return quotedIf isSpecial name ++ ':' :: (if listed.isEmpty then [] else ' ' :: listed) ++ [';']
  | .groupWithTextAfter name => do
    let _ ← nameText name
    .error .textAfterGroup

/-- A list of addresses as headers show it: every entry written out, with commas between them. -/
def addressList (cs : List Char) : Except AddressFault (List Char) :=
  match entries cs.length cs with
  | .error (.fault f) => .error f
  | .error .mismatch => .ok []
  | .ok found => (found.mapM Entry.text).map commaSeparated

end UptimeAlert.Mail
