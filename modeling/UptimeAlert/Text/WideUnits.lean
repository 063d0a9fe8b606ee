namespace UptimeAlert.Text

/-- Which byte of a unit comes first. -/
inductive ByteOrder where
  | big
  | little
  deriving DecidableEq, Repr

/-- The units of two bytes each, if nothing is left over. -/
def pairs? (order : ByteOrder) : List UInt8 → Option (List Nat)
  | [] => some []
  | a :: b :: bs =>
    let unit := match order with
      | .big => a.toNat * 256 + b.toNat
      | .little => b.toNat * 256 + a.toNat
    (pairs? order bs).map (unit :: ·)
  | _ => none

/-- The units of four bytes each, if nothing is left over. -/
def quads? (order : ByteOrder) : List UInt8 → Option (List Nat)
  | [] => some []
  | a :: b :: c :: d :: bs =>
    let unit := match order with
      | .big => ((a.toNat * 256 + b.toNat) * 256 + c.toNat) * 256 + d.toNat
      | .little => ((d.toNat * 256 + c.toNat) * 256 + b.toNat) * 256 + a.toNat
    (quads? order bs).map (unit :: ·)
  | _ => none

/-- Whether a unit opens a surrogate pair. -/
def isHighSurrogate (u : Nat) : Bool :=
  0xD800 ≤ u && u ≤ 0xDBFF

/-- Whether a unit closes a surrogate pair. -/
def isLowSurrogate (u : Nat) : Bool :=
  0xDC00 ≤ u && u ≤ 0xDFFF

def surrogatePair (high low : Nat) : Nat :=
  0x10000 + (high - 0xD800) * 1024 + (low - 0xDC00)

/-- The character of a unit that stands alone. -/
def loneUnit (u : Nat) : Char :=
  if isHighSurrogate u || isLowSurrogate u then '\uFFFD' else Char.ofNat u

/-- The characters that units of sixteen bits stand for. -/
def ofUnits16 : List Nat → List Char
  | [] => []
  | [u] => [loneUnit u]
  | u :: v :: us =>
    if isHighSurrogate u && isLowSurrogate v then Char.ofNat (surrogatePair u v) :: ofUnits16 us
    else loneUnit u :: ofUnits16 (v :: us)

def ofUnits32? (us : List Nat) : Option (List Char) :=
  if us.all (· < 0x110000) then some (us.map loneUnit) else none

def decode16? (order : ByteOrder) (bs : List UInt8) : Option (List Char) :=
  (pairs? order bs).map ofUnits16

def decode32? (order : ByteOrder) (bs : List UInt8) : Option (List Char) :=
  (quads? order bs).bind ofUnits32?

end UptimeAlert.Text
