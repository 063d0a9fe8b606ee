import UptimeAlert.Mail.Base64
import UptimeAlert.Platform
import UptimeAlert.Text.Search
import UptimeAlert.Text.Utf8

namespace UptimeAlert.Mail

open UptimeAlert.Text

namespace EncodedWord

variable [Platform]

/-- The bytes of UTF-8 for bytes of a character set, if the set can read them. Bytes of a set that
is not known stay as they are, but a name with a NUL is none. -/
def toUtf8? (charset : List Char) (bs : List UInt8) : Option (List UInt8) :=
  if charset.contains '\x00' then none
  else
    match Platform.charset? charset with
    | some read => read bs
    | none => some bs

/-- The bytes of text whose underscores stand for spaces and whose escapes are an equals sign with
two hexadecimal digits; the number counts the digits that are still to be passed over. -/
def readEscapes : Nat → List Char → List UInt8
  | _, [] => []
  | k + 1, _ :: cs => readEscapes k cs
  | 0, c :: cs =>
    let own : UInt8 := if c = '_' then 32 else c.toNat.toUInt8
    match c, cs with
    | '=', h :: l :: _ =>
      match hexValue? h, hexValue? l with
      | some high, some low => (high * 16 + low).toUInt8 :: readEscapes 2 cs
      | _, _ => own :: readEscapes 0 cs
    | _, _ => own :: readEscapes 0 cs

/-- The bytes of text in base 64: read strictly with its padding filled up, or else leniently, with
more padding if need be, or else left as it is. -/
def readBase64 (cs : List Char) : List UInt8 :=
  ((Base64.read? true (cs ++ Base64.padding cs)).or
    ((Base64.read? false cs).or (Base64.read? false (cs ++ ['=', '='])))).getD
    (cs.map fun c => c.toNat.toUInt8)

/-- The bytes of text in an encoding named by a letter. -/
def readEncoded? (encoding : List Char) (cs : List Char) : Option (List UInt8) :=
  if !cs.all (·.toNat < 128) then none
  else if encoding = ['q'] || encoding = ['Q'] then some (readEscapes 0 cs)
  else if encoding = ['b'] || encoding = ['B'] then some (readBase64 cs)
  else none

/-- The bytes that the inside of a word stands for: character set, encoding and text. A language may
follow the character set after an asterisk. -/
def inside? (cs : List Char) : Option (List UInt8) :=
  match splitAt '?' cs with
  | [charset, encoding, text] =>
    (readEncoded? encoding text).bind (toUtf8? (charset.takeWhile (· != '*')))
  | _ => none

/-- What the attempt to read a word comes to: the bytes it stands for and the rest of the text; or a
word that is malformed; or no word at all. -/
inductive Attempt where
  | word (bytes : List UInt8) (rest : List Char)
  | malformed
  | absent
  deriving DecidableEq, Repr

def opening : List Char := ['=', '?']

def closing : List Char := ['?', '=']

/-- The inside of a word and the rest. The mark before an escape at the very beginning of the
encoded text looks like the end of the word, so the word then goes on to the next one. -/
def split? (cs : List Char) : Option (List Char × List Char) :=
  match cut? closing cs with
  | none => none
  | some (token, rest) =>
    match rest with
    | h :: l :: _ =>
      if (hexValue? h).isSome && (hexValue? l).isSome && token.count '?' < 2 then
        match cut? closing rest with
        | some (more, rest) => some (token ++ closing ++ more, rest)
        | none => some (token ++ closing ++ rest, [])
      else some (token, rest)
    | _ => some (token, rest)

def read (cs : List Char) : Attempt :=
  match (opening.isPrefixOf? cs).bind split? with
  | none => .absent
  | some (token, rest) =>
    match inside? token with
    | some bytes => .word bytes rest
    | none => .malformed

/-- Whether a text after an opening goes on like a word: up to a question mark, a letter for the
encoding, another question mark, and a closing somewhere. -/
def goesOn (cs : List Char) : Bool :=
  match cs.dropWhile (· != '?') with
  | '?' :: e :: '?' :: text => ['q', 'Q', 'b', 'B'].contains e && occurs closing text
  | _ => false

/-- Whether something like a word occurs in a text. -/
def appearsIn : List Char → Bool
  | [] => false
  | c :: cs =>
    (match opening.isPrefixOf? (c :: cs) with
      | some rest => goesOn rest
      | none => false) || appearsIn cs

end EncodedWord

end UptimeAlert.Mail
