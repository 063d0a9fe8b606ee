import UptimeAlert.Text.Digits

namespace UptimeAlert.Mail.Base64

open UptimeAlert.Text

def digit? (c : Char) : Option Nat :=
  if 'A' ≤ c && c ≤ 'Z' then some (c.toNat - 'A'.toNat)
  else if 'a' ≤ c && c ≤ 'z' then some (c.toNat - 'a'.toNat + 26)
  else if isDigit c then some (digitValue c + 52)
  else if c = '+' then some 62
  else if c = '/' then some 63
  else none

/-- The byte that a digit completes: `count` digits of the group came before, `held` is what is left
of the last one. -/
def completed (count held value : Nat) : List UInt8 :=
  match count with
  | 1 => [(held * 4 + value / 16).toUInt8]
  | 2 => [(held * 16 + value / 4).toUInt8]
  | 3 => [(held * 64 + value).toUInt8]
  | _ => []

/-- What is left of a digit after `count` others of its group. -/
def heldBack (count value : Nat) : Nat :=
  match count with
  | 0 => value
  | 1 => value % 16
  | 2 => value % 4
  | _ => 0

/-- How far the reading of a group has come: the number of its digits, what is left of the last one,
the marks of padding after it, and whether any mark was met. -/
structure Progress where
  count : Nat
  held : Nat
  pads : Nat
  marked : Bool

/-- The beginning of a group. -/
def Progress.fresh : Progress := ⟨0, 0, 0, false⟩

/-- The progress after a further digit. -/
def Progress.add (p : Progress) (value : Nat) : Progress :=
  ⟨(p.count + 1) % 4, heldBack p.count value, 0, p.marked⟩

/-- The progress after a mark of padding, which counts from the third place of a group on. -/
def Progress.mark (p : Progress) : Progress :=
  { p with pads := if 2 ≤ p.count then p.pads + 1 else p.pads, marked := true }

/-- Reads on within a group, which must be complete at the end. Strict reading lets nothing but
padding follow padding. -/
def readFrom (strict : Bool) (p : Progress) : List Char → Option (List UInt8)
  | [] => if p.count = 0 then some [] else none
  | c :: cs =>
    if c = '=' then
      if 2 ≤ p.count && 3 ≤ p.count + p.pads then if strict && !cs.isEmpty then none else some []
      else readFrom strict p.mark cs
    else
      match digit? c with
      | none => if strict then none else readFrom strict p cs
      | some value =>
        if strict && p.marked then none
        else (readFrom strict (p.add value) cs).map (completed p.count p.held value ++ ·)

/-- Reads a text. Strict reading lets it not begin with padding. -/
def read? (strict : Bool) (cs : List Char) : Option (List UInt8) :=
  if strict && cs.head? = some '=' then none else readFrom strict .fresh cs

def padding (cs : List Char) : List Char :=
  match cs.length % 4 with
  | 0 => []
  | n => List.replicate (4 - n) '='

end UptimeAlert.Mail.Base64
