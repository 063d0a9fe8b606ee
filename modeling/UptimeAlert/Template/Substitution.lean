import UptimeAlert.Template.Dictionary

namespace UptimeAlert.Template

open UptimeAlert.Text

inductive Piece where
  | literal (c : Char)
  | token (name : List Char)
  deriving DecidableEq, Repr

/-- A value as the text of a template: absent values as the marker, truth values in small letters,
whole numbers without places. -/
def stringify (missing : List Char) : Value → List Char
  | .null => missing
  | .bool true => "true".toList
  | .bool false => "false".toList
  | .float x =>
    match x.toInt? with
    | some n => signedDecimal n
    | none => (Value.float x).display
  | other => other.display

/-- A value as the text of a template, if it can be written. -/
def stringify? (missing : List Char) (v : Value) : Except RenderError (List Char) :=
  v.ifWritable (stringify missing v)

/-- The longer of a token and the best one so far; the best one stays if they are equally long. -/
def longer (token : List Char) : Option (List Char) → Option (List Char)
  | none => some token
  | some best => if best.length < token.length then some token else some best

/-- The longest non-empty token that a text begins with. -/
def longestAt? (tokens : List (List Char)) (cs : List Char) : Option (List Char) :=
  tokens.foldr (fun t best => if !t.isEmpty && t.isPrefixOf cs then longer t best else best) none

def emptyToken (tokens : List (List Char)) : List Piece :=
  if tokens.contains [] then [.token []] else []

/-- Scans a text; the number counts the characters of a token that are still to be passed over. -/
def scanFrom (tokens : List (List Char)) : Nat → List Char → List Piece
  | _, [] => emptyToken tokens
  | k + 1, _ :: cs => scanFrom tokens k cs
  | 0, c :: cs =>
    match longestAt? tokens (c :: cs) with
    | some t => .token t :: scanFrom tokens (t.length - 1) cs
    | none => emptyToken tokens ++ .literal c :: scanFrom tokens 0 cs

def scan (tokens : List (List Char)) (text : List Char) : List Piece :=
  scanFrom tokens 0 text

/-- Puts the pieces together again, each token by its value. -/
def assemble (value : List Char → List Char) (pieces : List Piece) : List Char :=
  pieces.flatMap fun
    | .literal c => [c]
    | .token t => value t

namespace Dictionary

def tokens (d : Dictionary) : List (List Char) :=
  d.map fun entry => entry.1.toList

def valueText (d : Dictionary) (missing token : List Char) : List Char :=
  stringify missing (d.get (String.ofList token))

def substitute (d : Dictionary) (missing text : List Char) : List Char :=
  assemble (d.valueText missing) (scan d.tokens text)

/-- Puts values for the tokens of a text, if all values can be written; they all are, whatever
tokens the text has. -/
def substitute? (d : Dictionary) (missing text : List Char) : Except RenderError (List Char) :=
  (Value.record d).ifWritable (d.substitute missing text)

end Dictionary

end UptimeAlert.Template
