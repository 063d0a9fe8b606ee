namespace UptimeAlert.Text

def decimal (n : Nat) : List Char :=
  Nat.toDigits 10 n

/-- The decimal digits of a number with a minus sign before a negative one. -/
def signedDecimal : Int → List Char
  | .ofNat n => decimal n
  | .negSucc n => '-' :: decimal (n + 1)

/-- Digits filled up on the left with zeros to a least width. -/
def fillZeros (width : Nat) (digits : List Char) : List Char :=
  List.replicate (width - digits.length) '0' ++ digits

/-- The decimal digits of a number, at least `width` of them. -/
def padded (width n : Nat) : List Char :=
  fillZeros width (decimal n)

/-- The hexadecimal digits of a number in small letters, at least `width` of them. -/
def hex (width n : Nat) : List Char :=
  fillZeros width (Nat.toDigits 16 n)

def isDigit (c : Char) : Bool :=
  '0' ≤ c && c ≤ '9'

/-- The value of an ASCII digit, of whatever else less than that of zero nothing. -/
def digitValue (c : Char) : Nat :=
  c.toNat - '0'.toNat

/-- The number that decimal digits denote. -/
def ofDigits (ds : List Char) : Nat :=
  ds.foldl (fun n d => 10 * n + digitValue d) 0

/-- The value of a hexadecimal digit, in letters of either case. -/
def hexValue? (c : Char) : Option Nat :=
  if isDigit c then some (digitValue c)
  else if 'a' ≤ c && c ≤ 'f' then some (c.toNat - 'a'.toNat + 10)
  else if 'A' ≤ c && c ≤ 'F' then some (c.toNat - 'A'.toNat + 10)
  else none

/-- A letter of the ASCII alphabet as a capital. -/
def upperAscii (c : Char) : Char :=
  if 'a' ≤ c && c ≤ 'z' then Char.ofNat (c.toNat - 32) else c

def lowerAscii (c : Char) : Char :=
  if 'A' ≤ c && c ≤ 'Z' then Char.ofNat (c.toNat + 32) else c

end UptimeAlert.Text
