import ProofLedger.Text.Basic

/-!
# Text in units of two and four octets

Two adjacent 16-bit units that form a surrogate pair are one code point;
a surrogate without its partner is kept as it stands. Octets left over at
the end, and 32-bit units past the last code point, are refused.
-/

namespace ProofLedger.Text.Wide

/-- The order of the octets of a unit. -/
inductive Order where
  | big
  | little
  deriving DecidableEq, Repr

/-- A number from two octets. -/
def Order.pair (o : Order) (a b : UInt8) : Nat :=
  match o with
  | .big => a.toNat * 256 + b.toNat
  | .little => b.toNat * 256 + a.toNat

/-- A number from four octets. -/
def Order.quad (o : Order) (a b c d : UInt8) : Nat :=
  match o with
  | .big => o.pair a b * 65536 + o.pair c d
  | .little => o.pair c d * 65536 + o.pair a b

/-- The 16-bit units; `none` when an octet is left over. -/
def units16 (o : Order) : Bytes → Option (List Nat)
  | [] => some []
  | [_] => none
  | a :: b :: r => (units16 o r).map (o.pair a b :: ·)

/-- The 32-bit units that are code points; `none` when octets are left over
or a unit is too large. -/
def decode32 (o : Order) : Bytes → Option Text
  | [] => some []
  | a :: b :: c :: d :: r =>
    if o.quad a b c d < 0x110000 then (decode32 o r).map (o.quad a b c d :: ·) else none
  | _ => none

def isHigh (u : Nat) : Bool := 0xD800 ≤ u && u ≤ 0xDBFF

def isLow (u : Nat) : Bool := 0xDC00 ≤ u && u ≤ 0xDFFF

/-- The code point of a surrogate pair. -/
def joinPair (high low : Nat) : Nat := 0x10000 + (high - 0xD800) * 1024 + (low - 0xDC00)

/-- Joins surrogate pairs and keeps every other unit. -/
def joinUnits : List Nat → Text
  | [] => []
  | [u] => [u]
  | u :: v :: r =>
    if isHigh u && isLow v then joinPair u v :: joinUnits r else u :: joinUnits (v :: r)

/-- Reads 16-bit units as text. -/
def decode16 (o : Order) (bytes : Bytes) : Option Text := (units16 o bytes).map joinUnits

end ProofLedger.Text.Wide
