import UptimeAlert.Mail.Address.Fault
import UptimeAlert.Mail.EncodedWord
import UptimeAlert.Text.Blank

namespace UptimeAlert.Mail

open UptimeAlert.Text

variable [Platform]

/-- Why a part is not read: the text is none of that kind, or it is malformed beyond recovery. -/
inductive Stop where
  | mismatch
  | fault (f : AddressFault)
  deriving DecidableEq, Repr

def opensBlank (c : Char) : Bool :=
  isSpaceOrTab c || c = '('

/-- The characters with a meaning of their own in addresses. -/
def isSpecial (c : Char) : Bool :=
  "()<>@,:;.\\\"[]".toList.contains c

/-- What ends an atom. -/
def endsAtom (c : Char) : Bool :=
  isSpecial c || isSpaceOrTab c

/-- What ends a phrase: a period, a quoted string or a comment may stand in one. -/
def endsPhrase (c : Char) : Bool :=
  isSpecial c && c != '.' && c != '"' && c != '('

def beginsWith (p : Char → Bool) : List Char → Bool
  | c :: _ => p c
  | [] => false

def doubleQuoted (cs : List Char) : List Char :=
  '"' :: cs.flatMap (fun c => if c = '"' || c = '\\' then ['\\', c] else [c]) ++ ['"']

/-- Text up to a space, a tab or a closing character, without the backslashes that escape what
follows them; the flag tells whether one has just been read. -/
def unescaped (closes : Char → Bool) : Bool → List Char → List Char × List Char
  | _, [] => ([], [])
  | escaping, c :: cs =>
    if isSpaceOrTab c then ([], c :: cs)
    else if c = '\\' && !escaping then unescaped closes true cs
    else if c != '\\' && !escaping && closes c then ([], c :: cs)
    else
      let (text, rest) := unescaped closes false cs
      (c :: text, rest)

/-- A comment without its opening parenthesis, written with its own closing one; the number bounds
its length. -/
def comment : Nat → List Char → List Char × List Char
  | 0, cs => ([], cs)
  | _, [] => ([')'], [])
  | _, ')' :: cs => ([')'], cs)
  | n + 1, '(' :: cs =>
    let (inner, rest) := comment n cs
    let (more, rest) := comment n rest
    ('(' :: inner ++ more, rest)
  | n + 1, c :: cs =>
    if isSpaceOrTab c then
      let (more, rest) := comment n ((c :: cs).dropWhile isBlank)
      ((c :: cs).takeWhile isBlank ++ more, rest)
    else
      let (text, rest) := unescaped (fun c => c = '(' || c = ')') false (c :: cs)
      let (more, rest) := comment n rest
      let escape (c : Char) := if c = '\\' || c = '(' || c = ')' then ['\\', c] else [c]
      (text.flatMap escape ++ more, rest)

/-- The blanks and comments that a text begins with; the number bounds their count. -/
def blanksWith : Nat → List Char → List Char × List Char
  | 0, cs => ([], cs)
  | n + 1, cs =>
    match cs with
    | '(' :: inner =>
      let (text, rest) := comment (inner.length + 1) inner
      let (more, rest) := blanksWith n rest
      ('(' :: text ++ more, rest)
    | _ =>
      if beginsWith isSpaceOrTab cs then
        let (more, rest) := blanksWith n (cs.dropWhile isBlank)
        (cs.takeWhile isBlank ++ more, rest)
      else ([], cs)

/-- The blanks and comments that a text begins with, if there are any. -/
def blanks? (cs : List Char) : Option (List Char) × List Char :=
  if beginsWith opensBlank cs then
    let (text, rest) := blanksWith cs.length cs
    (some text, rest)
  else (none, cs)

/-- What a word stands for. -/
inductive Core where
  | atom (text : List Char)
  | encoded (text : List Char)
  | quoted (text : List Char) (hasParts : Bool)
  deriving DecidableEq, Repr

/-- Text with a single space for every run of blanks that begins with a space or a tab; the flag
tells whether such a run has begun. -/
def oneSpace : Bool → List Char → List Char
  | _, [] => []
  | inRun, c :: cs =>
    if inRun && isBlank c then oneSpace true cs
    else if isSpaceOrTab c then ' ' :: oneSpace true cs
    else c :: oneSpace false cs

namespace Core

def value : Core → List Char
  | .atom text => text
  | .encoded text => oneSpace false text
  | .quoted text _ => text

/-- The written form of a word, encoded words decoded. -/
def written : Core → List Char
  | .atom text => text
  | .encoded text => text
  | .quoted text _ => doubleQuoted text

/-- Whether a word was written with nothing inside. -/
def isHollow : Core → Bool
  | .atom _ => false
  | .encoded text => text.isEmpty
  | .quoted _ hasParts => !hasParts

end Core

/-- A word with the blanks around it. -/
structure Word where
  before : Option (List Char)
  core : Core
  after : Option (List Char)
  deriving DecidableEq, Repr

namespace Word

def written (w : Word) : List Char :=
  w.before.getD [] ++ w.core.written ++ w.after.getD []

/-- The meaning of a word; the flags tell whether the blanks at either side count, as one space. -/
def value (w : Word) (keepBefore keepAfter : Bool) : List Char :=
  (if keepBefore && w.before.isSome then [' '] else []) ++ w.core.value ++
    (if keepAfter && w.after.isSome then [' '] else [])

end Word

def encodedWord (cs : List Char) : Except Stop (Core × List Char) :=
  match EncodedWord.read cs with
  | .word bytes rest => .ok (.encoded (Utf8.decodeReplacing bytes), rest)
  | _ => .error .mismatch

/-- The run of characters that an atom consists of. -/
def atomText (cs : List Char) : Except Stop (Core × List Char) :=
  match cs.takeWhile (!endsAtom ·) with
  | [] => .error .mismatch
  | text => .ok (.atom text, cs.drop text.length)

/-- The first reading, or the other one where the text is not of the first kind. -/
def Stop.orElse {α : Type} (first other : Except Stop α) : Except Stop α :=
  match first with
  | .error .mismatch => other
  | read => read

/-- A word made of what a reader finds between blanks. -/
def surrounded (core : List Char → Except Stop (Core × List Char)) (cs : List Char) :
    Except Stop (Word × List Char) := do
  let (before, cs) := blanks? cs
  let (core, cs) ← core cs
  let (after, cs) := blanks? cs
  return (⟨before, core, after⟩, cs)

/-- An atom or an encoded word, with blanks around it. -/
def atom (cs : List Char) : Except Stop (Word × List Char) :=
  surrounded (fun cs => Stop.orElse (encodedWord cs) (atomText cs)) cs

inductive QuotedPart where
  | blanks (text : List Char)
  | encoded (text : List Char)
  | text (text : List Char)
  deriving DecidableEq, Repr

def quotedPart (cs : List Char) : QuotedPart × List Char :=
  if beginsWith isSpaceOrTab cs then (.blanks (cs.takeWhile isBlank), cs.dropWhile isBlank)
  else
    match EncodedWord.read cs with
    | .word bytes rest => (.encoded (Utf8.decodeReplacing bytes), rest)
    | _ =>
      let (text, rest) := unescaped (· = '"') false cs
      (.text text, rest)

/-- The parts of a quoted string up to its closing quote, and the text after that; the number bounds
their count. -/
def quotedParts : Nat → List Char → List QuotedPart × List Char
  | 0, cs => ([], cs)
  | _, [] => ([], [])
  | _, '"' :: cs => ([], cs)
  | n + 1, cs =>
    let (part, rest) := quotedPart cs
    let (parts, rest) := quotedParts n rest
    (part :: parts, rest)

/-- The text of a quoted string: blanks between two encoded words are dropped. -/
def quotedText : List QuotedPart → List Char
  | .encoded a :: .blanks _ :: .encoded b :: rest => a ++ quotedText (.encoded b :: rest)
  | .encoded text :: rest => text ++ quotedText rest
  | .blanks text :: rest => text ++ quotedText rest
  | .text text :: rest => text ++ quotedText rest
  | [] => []

/-- A quoted string. One that ends right after its opening quote has no parts; an empty one has an
empty part. -/
def quotedString (cs : List Char) : Except Stop (Core × List Char) :=
  match cs with
  | '"' :: inner =>
    let (parts, rest) := quotedParts (inner.length + 1) inner
    .ok (.quoted (quotedText parts) (!parts.isEmpty || beginsWith (· = '"') inner), rest)
  | _ => .error .mismatch

/-- A word: an atom, an encoded word or a quoted string. -/
def word (cs : List Char) : Except Stop (Word × List Char) := do
  let (before, rest) := blanks? cs
  match rest with
  | [] => .error .mismatch
  | c :: _ =>
    if c = '"' then
      let (w, rest) ← surrounded quotedString rest
      return ({ w with before }, rest)
    else if isSpecial c then .error .mismatch
    else
      let (w, rest) ← atom rest
      return ({ w with before }, rest)

inductive Part where
  | word (w : Word)
  | dot
  | blanks (text : List Char)
  | backslash
  deriving DecidableEq, Repr

/-- A word, or blanks alone where no word follows them. -/
def wordOrBlanks (cs : List Char) : Except Stop (Part × List Char) :=
  match word cs with
  | .ok (w, rest) => .ok (.word w, rest)
  | .error .mismatch =>
    match blanks? cs with
    | (some text, rest) => .ok (.blanks text, rest)
    | (none, _) => .error .mismatch
  | .error stop => .error stop

/-- The parts of a phrase; the number bounds their count. -/
def phraseParts : Nat → List Char → Except Stop (List Part × List Char)
  | 0, cs => .ok ([], cs)
  | _, [] => .ok ([], [])
  | n + 1, c :: cs =>
    if endsPhrase c then .ok ([], c :: cs)
    else do
      let (part, rest) ← if c = '.' then .ok (.dot, cs) else wordOrBlanks (c :: cs)
      let (parts, rest) ← phraseParts n rest
      return (part :: parts, rest)

/-- A phrase: words, periods and blanks. -/
def phrase (cs : List Char) : Except Stop (List Part × List Char) :=
  phraseParts (cs.length + 1) cs

end UptimeAlert.Mail
