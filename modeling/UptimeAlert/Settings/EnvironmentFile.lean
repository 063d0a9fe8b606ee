import UptimeAlert.Settings.Environment
import UptimeAlert.Text.Blank
import UptimeAlert.Text.Lines
import UptimeAlert.Text.Search

namespace UptimeAlert.EnvironmentFile

open UptimeAlert.Text

def isInlineBlank (c : Char) : Bool :=
  isBlank c && c != '\n' && c != '\r'

def endsLine (c : Char) : Bool :=
  c = '\n' || c = '\r'

/-- Whether a text is at its end or at the end of a line. -/
def atLineEnd : List Char → Bool
  | [] => true
  | c :: _ => endsLine c

/-- The text within a quotation mark and the rest after the closing one. A mark after a backslash
closes only if no other one does. -/
def untilQuote (mark : Char) : List Char → Option (List Char × List Char)
  | [] => none
  | '\\' :: c :: cs =>
    if c = mark then
      match untilQuote mark cs with
      | some (text, rest) => some ('\\' :: c :: text, rest)
      | none => some (['\\'], cs)
    else (untilQuote mark (c :: cs)).map fun (text, rest) => ('\\' :: text, rest)
  | c :: cs =>
    if c = mark then some ([], cs)
    else (untilQuote mark cs).map fun (text, rest) => (c :: text, rest)

def singleEscape? (c : Char) : Option Char :=
  if c = '\\' || c = '\'' then some c else none

def doubleEscape? (c : Char) : Option Char :=
  match c with
  | '\\' => some '\\'
  | '\'' => some '\''
  | '"' => some '"'
  | 'a' => some '\x07'
  | 'b' => some '\x08'
  | 'f' => some '\x0C'
  | 'n' => some '\n'
  | 'r' => some '\r'
  | 't' => some '\t'
  | 'v' => some '\x0B'
  | _ => none

/-- Text with its escapes read; a backslash before any other character stays. -/
def readEscapes (escape? : Char → Option Char) : List Char → List Char
  | '\\' :: c :: cs =>
    match escape? c with
    | some e => e :: readEscapes escape? cs
    | none => '\\' :: readEscapes escape? (c :: cs)
  | c :: cs => c :: readEscapes escape? cs
  | [] => []

/-- Text up to a number sign with a blank before it; `blanks` are those just read. -/
def withoutComment (blanks : List Char) : List Char → List Char
  | [] => blanks
  | c :: cs =>
    if c = '#' && !blanks.isEmpty then []
    else if isBlank c then withoutComment (blanks ++ [c]) cs
    else blanks ++ c :: withoutComment [] cs

/-- Text without the blanks at its end. -/
def trimEnd (cs : List Char) : List Char :=
  (cs.reverse.dropWhile isBlank).reverse

/-- A name that is bound, and the rest. A line that begins with a comment binds none. -/
def readKey (cs : List Char) : Option (Option (List Char) × List Char) :=
  match cs with
  | '#' :: _ => some (none, cs)
  | '\'' :: inside =>
    match inside.takeWhile (· != '\''), inside.dropWhile (· != '\'') with
    | [], _ => none
    | _, [] => none
    | key, _ :: rest => some (some key, rest)
  | _ =>
    let isPlain (c : Char) := c != '=' && c != '#' && !isBlank c
    match cs.takeWhile isPlain with
    | [] => none
    | key => some (some key, cs.dropWhile isPlain)

/-- The value after an equals sign, and the rest. -/
def readValue (cs : List Char) : Option (List Char × List Char) :=
  match cs with
  | '\'' :: inside =>
    (untilQuote '\'' inside).map fun (text, rest) => (readEscapes singleEscape? text, rest)
  | '"' :: inside =>
    (untilQuote '"' inside).map fun (text, rest) => (readEscapes doubleEscape? text, rest)
  | cs =>
    let line := cs.takeWhile (!endsLine ·)
    some (trimEnd (withoutComment [] line), cs.dropWhile (!endsLine ·))

/-- The end of a line: blanks, a comment and the line break. -/
def readLineEnd (cs : List Char) : Option (List Char) :=
  let cs := cs.dropWhile isInlineBlank
  let cs := if cs.head? = some '#' then cs.dropWhile (!endsLine ·) else cs
  if atLineEnd cs then
    match cs with
    | '\r' :: '\n' :: rest => some rest
    | cs => some (cs.drop 1)
  else none

/-- The line without the word that marks a variable for other programs, which a blank has to follow.
-/
def skipExport (cs : List Char) : List Char :=
  match "export".toList.isPrefixOf? cs with
  | some rest =>
    if (rest.head?.map isInlineBlank).getD false then rest.dropWhile isInlineBlank else cs
  | none => cs

/-- A name and its value; there is no value without an equals sign. -/
structure Binding where
  name : String
  value : Option String
  deriving DecidableEq, Repr

/-- The binding of one line, if there is one, and the rest after the line; nothing if it cannot be
read. -/
def readBinding (cs : List Char) : Option (Option Binding × List Char) := do
  let (key, rest) ← readKey (skipExport cs)
  let bind (value : Option (List Char)) : Option Binding :=
    key.map fun key => ⟨String.ofList key, value.map String.ofList⟩
  match rest.dropWhile isInlineBlank with
  | '=' :: rest =>
    let (value, rest) ← readValue (rest.dropWhile isInlineBlank)
    let rest ← readLineEnd rest
    return (bind (some value), rest)
  | rest =>
    let rest ← readLineEnd rest
    return (bind none, rest)

/-- Where reading failed on a line that cannot be read, and so where the next line is looked for: a
value in quotes may span several lines. -/
def failurePoint (cs : List Char) : List Char :=
  match readKey (skipExport cs) with
  | none => skipExport cs
  | some (_, rest) =>
    match rest.dropWhile isInlineBlank with
    | '=' :: rest =>
      let rest := rest.dropWhile isInlineBlank
      ((readValue rest).map Prod.snd).getD rest
    | rest => rest

def nextLine (cs : List Char) : List Char :=
  match cs.dropWhile (!endsLine ·) with
  | _ :: rest => rest
  | [] => []

/-- The bindings of a text; the number bounds the count of lines. -/
def bindings : Nat → List Char → List Binding
  | 0, _ => []
  | n + 1, cs =>
    match cs.dropWhile isBlank with
    | [] => []
    | line =>
      match readBinding line with
      | some (binding, rest) => binding.toList ++ bindings n rest
      | none => bindings n (nextLine (failurePoint line))

/-- The reference after an opening brace: the name up to a colon or the closing brace, the default
after a colon and a hyphen, and the rest. -/
def reference? (cs : List Char) : Option (List Char × List Char × List Char) :=
  let inName (c : Char) := c != '}' && c != ':'
  let name := cs.takeWhile inName
  match cs.dropWhile inName with
  | '}' :: rest => some (name, [], rest)
  | ':' :: '-' :: default =>
    match default.dropWhile (· != '}') with
    | '}' :: rest => some (name, default.takeWhile (· != '}'), rest)
    | _ => none
  | _ => none

/-- Puts values for the references of a text; the number counts the characters of a reference that
are still to be passed over. -/
def expandFrom (value? : String → Option String) : Nat → List Char → List Char
  | _, [] => []
  | k + 1, _ :: cs => expandFrom value? k cs
  | 0, c :: cs =>
    match (if c = '$' then ['{'].isPrefixOf? cs else none).bind reference? with
    | some (name, default, rest) =>
      ((value? (String.ofList name)).map String.toList).getD default ++
        expandFrom value? (cs.length - rest.length) cs
    | none => c :: expandFrom value? 0 cs

/-- Names with the values that are bound to them, in the order in which they were first bound. -/
abbrev Bound := List (String × Option String)

/-- The bindings with one set: in its place if the name is there, at the end otherwise. -/
def Bound.put (bound : Bound) (name : String) (value : Option String) : Bound :=
  match bound with
  | [] => [(name, value)]
  | (key, old) :: rest =>
    if key = name then (name, value) :: rest else (key, old) :: put rest name value

/-- The bindings so far with a further one, its references replaced. Names of the file come before
those of the environment. -/
def Bound.extend (env : Environment) (bound : Bound) (b : Binding) : Bound :=
  let value? (name : String) : Option String :=
    match List.lookup name bound with
    | some value => some (value.getD "")
    | none => env.lookup name
  bound.put b.name (b.value.map fun v => String.ofList (expandFrom value? 0 v.toList))

/-- The last one of the bindings whose names differ in case only. -/
def Bound.lastOfCases (bound : Bound) : Bound :=
  bound.foldl
    (fun last (name, value) =>
      (last.filter fun (key, _) => Environment.fold key != Environment.fold name) ++
        [(name, value)])
    []

/-- The variables that a file sets, read from its text; a name without a value unsets an earlier
one. -/
def read (env : Environment) (text : List Char) : Environment :=
  let bound := (bindings text.length (unifyBreaks text)).foldl (Bound.extend env) []
  (Bound.lastOfCases bound).filterMap fun (name, value) => value.map fun v => (name, v)

end UptimeAlert.EnvironmentFile
