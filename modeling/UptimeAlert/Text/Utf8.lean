import UptimeAlert.Text.Digits

namespace UptimeAlert.Text.Utf8

inductive Flaw where
  | startByte
  | continuationByte
  | endOfData
  deriving DecidableEq, Repr

/-- What a sequence of bytes begins with, and how many bytes that takes. -/
inductive Head where
  | char (c : Char) (length : Nat)
  | flawed (flaw : Flaw) (length : Nat)
  deriving DecidableEq, Repr

/-- Whether a byte carries six further bits of a code point. -/
def isContinuation (b : UInt8) : Bool :=
  0x80 ≤ b && b < 0xC0

/-- The bits that a continuation byte carries. -/
def bits (b : UInt8) : Nat :=
  b.toNat - 0x80

/-- Whether `b` may follow the lead byte: neither an overlong form, nor a surrogate, nor past the
last code point. -/
def mayFollow (lead b : UInt8) : Bool :=
  isContinuation b &&
    !((lead == 0xE0 && b < 0xA0) || (lead == 0xED && 0xA0 ≤ b) ||
      (lead == 0xF0 && b < 0x90) || (lead == 0xF4 && 0x90 ≤ b))

/-- The sequence of three bytes under a lead byte. -/
def headOfThree (lead : UInt8) : List UInt8 → Head
  | [] => .flawed .endOfData 1
  | b :: bs =>
    if !mayFollow lead b then .flawed .continuationByte 1
    else
      match bs with
      | [] => .flawed .endOfData 2
      | c :: _ =>
        if !isContinuation c then .flawed .continuationByte 2
        else .char (Char.ofNat ((lead.toNat - 0xE0) * 4096 + bits b * 64 + bits c)) 3

/-- The sequence of four bytes under a lead byte. -/
def headOfFour (lead : UInt8) : List UInt8 → Head
  | [] => .flawed .endOfData 1
  | b :: bs =>
    if !mayFollow lead b then .flawed .continuationByte 1
    else
      match bs with
      | [] => .flawed .endOfData 2
      | c :: cs =>
        if !isContinuation c then .flawed .continuationByte 2
        else
          match cs with
          | [] => .flawed .endOfData 3
          | d :: _ =>
            if !isContinuation d then .flawed .continuationByte 3
            else
              .char (Char.ofNat
                ((lead.toNat - 0xF0) * 262144 + bits b * 4096 + bits c * 64 + bits d)) 4

/-- The sequence that begins with `lead`, the bytes after it given. -/
def head (lead : UInt8) (bs : List UInt8) : Head :=
  if lead < 0x80 then .char (Char.ofNat lead.toNat) 1
  else if lead < 0xC2 then .flawed .startByte 1
  else if lead < 0xE0 then
    match bs with
    | [] => .flawed .endOfData 1
    | b :: _ =>
      if !isContinuation b then .flawed .continuationByte 1
      else .char (Char.ofNat ((lead.toNat - 0xC0) * 64 + bits b)) 2
  else if lead < 0xF0 then headOfThree lead bs
  else if lead < 0xF5 then headOfFour lead bs
  else .flawed .startByte 1

/-- The first fault of a text: the bytes it covers and what is wrong with them. -/
structure Fault where
  position : Nat
  length : Nat
  byte : UInt8
  flaw : Flaw
  deriving DecidableEq, Repr

def Flaw.message : Flaw → String
  | .startByte => "invalid start byte"
  | .continuationByte => "invalid continuation byte"
  | .endOfData => "unexpected end of data"

def Fault.message (f : Fault) : String :=
  let place :=
    if f.length = 1 then
      "byte 0x" ++ String.ofList (hex 2 f.byte.toNat) ++ " in position " ++ toString f.position
    else
      "bytes in position " ++ toString f.position ++ "-" ++ toString (f.position + f.length - 1)
  "'utf-8' codec can't decode " ++ place ++ ": " ++ f.flaw.message

/-- Reads strictly from a position on; the first number counts the bytes of the last character that
are still to be passed over. -/
def decodeFrom : Nat → Nat → List UInt8 → Except Fault (List Char)
  | _, _, [] => .ok []
  | k + 1, position, _ :: bs => decodeFrom k (position + 1) bs
  | 0, position, b :: bs =>
    match head b bs with
    | .char c length => (decodeFrom (length - 1) (position + 1) bs).map (c :: ·)
    | .flawed flaw length => .error ⟨position, length, b, flaw⟩

def decode (bs : List UInt8) : Except Fault (List Char) :=
  decodeFrom 0 0 bs

/-- Reads leniently; the number counts the bytes that are still to be passed over. -/
def replaceFrom : Nat → List UInt8 → List Char
  | _, [] => []
  | k + 1, _ :: bs => replaceFrom k bs
  | 0, b :: bs =>
    match head b bs with
    | .char c length => c :: replaceFrom (length - 1) bs
    | .flawed _ length => '\uFFFD' :: replaceFrom (length - 1) bs

/-- Reads bytes with a replacement character for each faulty stretch. -/
def decodeReplacing (bs : List UInt8) : List Char :=
  replaceFrom 0 bs

def encode (cs : List Char) : List UInt8 :=
  cs.flatMap String.utf8EncodeChar

end UptimeAlert.Text.Utf8
