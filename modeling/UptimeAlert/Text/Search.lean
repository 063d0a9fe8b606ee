namespace UptimeAlert.Text

/-- The texts before and after the first occurrence of `p`. -/
def cut? (p : List Char) : List Char → Option (List Char × List Char)
  | [] => (p.isPrefixOf? []).map fun rest => ([], rest)
  | c :: cs =>
    match p.isPrefixOf? (c :: cs) with
    | some rest => some ([], rest)
    | none => (cut? p cs).map fun (before, rest) => (c :: before, rest)

/-- Whether `p` occurs in the text. -/
def occurs (p cs : List Char) : Bool :=
  (cut? p cs).isSome

/-- Writes `r` for each occurrence of the non-empty text `p`; the number counts the characters of an
occurrence that are still to be passed over. -/
def replaceFrom (p r : List Char) : Nat → List Char → List Char
  | _, [] => []
  | n + 1, _ :: cs => replaceFrom p r n cs
  | 0, c :: cs =>
    if p.isPrefixOf (c :: cs) then r ++ replaceFrom p r (p.length - 1) cs
    else c :: replaceFrom p r 0 cs

/-- Replaces the occurrences of the non-empty text `p`, found from the left without overlap. -/
def replaceAll (p r cs : List Char) : List Char :=
  replaceFrom p r 0 cs

def splitAt (separator : Char) : List Char → List (List Char)
  | [] => [[]]
  | c :: cs =>
    if c = separator then [] :: splitAt separator cs
    else
      match splitAt separator cs with
      | [] => [[c]]
      | piece :: pieces => (c :: piece) :: pieces

/-- Texts with a comma and a space between each two of them. -/
def commaSeparated (texts : List (List Char)) : List Char :=
  [',', ' '].intercalate texts

/-- Removes the characters of a class from both ends. -/
def trim (blank : Char → Bool) (cs : List Char) : List Char :=
  ((cs.dropWhile blank).reverse.dropWhile blank).reverse

end UptimeAlert.Text
