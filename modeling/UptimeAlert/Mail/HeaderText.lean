import UptimeAlert.Mail.EncodedWord
import UptimeAlert.Text.Blank

namespace UptimeAlert.Mail.HeaderText

open UptimeAlert.Text

variable [Platform]

inductive Piece where
  | blanks (cs : List Char)
  | word (bytes : List UInt8)
  | text (cs : List Char)
  deriving DecidableEq, Repr

/-- The text up to a space or tab, unless something like a word begins within it, and then up to its
beginning. -/
def textRun (mayBreak : Bool) (cs : List Char) : List Char :=
  let run := cs.takeWhile (!isSpaceOrTab ·)
  if mayBreak && EncodedWord.appearsIn run then
    match cut? EncodedWord.opening cs with
    | some (before, _) => before
    | none => run
  else run

/-- The next piece of a text that is not empty. -/
def nextPiece (cs : List Char) : Piece × List Char :=
  if (cs.head?.map isSpaceOrTab).getD false then
    (.blanks (cs.takeWhile isBlank), cs.dropWhile isBlank)
  else
    let attempt := EncodedWord.read cs
    match attempt with
    | .word bytes rest => (.word bytes, rest)
    | other =>
      let run := textRun (other != .malformed) cs
      (.text run, cs.drop run.length)

def pieces : Nat → List Char → List Piece
  | 0, _ => []
  | _, [] => []
  | n + 1, cs =>
    let (piece, rest) := nextPiece cs
    piece :: pieces n rest

/-- Drops the blanks between two words. -/
def joinWords : List Piece → List Piece
  | .word a :: .blanks _ :: .word b :: rest => .word a :: joinWords (.word b :: rest)
  | piece :: rest => piece :: joinWords rest
  | [] => []

def Piece.bytes : Piece → List UInt8
  | .blanks cs => Utf8.encode cs
  | .word bytes => bytes
  | .text cs => Utf8.encode cs

def read (cs : List Char) : List Char :=
  Utf8.decodeReplacing ((joinWords (pieces cs.length cs)).flatMap Piece.bytes)

end UptimeAlert.Mail.HeaderText
