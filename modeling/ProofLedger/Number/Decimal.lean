import ProofLedger.Number.Double
import ProofLedger.Text.Basic

/-!
# Doubles in decimal

A decimal is a whole number of digits times a power of ten. Reading one
takes the nearest double. Writing a double takes the fewest digits that
read back to it, and of those the nearest to it; the search asks the
reader itself, so what is written always reads back.

Three layouts use these digits: the plain one (positional between 10^-4
and 10^16, otherwise with an exponent), and a fixed number of places with
or without a plus sign, where a tie goes to the even digit.
-/

namespace ProofLedger

/-- The number `digits * 10 ^ exponent`. -/
structure Decimal where
  digits : Nat
  exponent : Int
  deriving DecidableEq, Repr

namespace Decimal

/-- How many decimal digits a number has. -/
def length (n : Nat) : Nat := (Text.ofNat n).length

/-- The rank of the double nearest to the decimal. Decimals from 10^400 on are
infinite and those below 10^-400 are zero, which spares huge powers. -/
def rank (d : Decimal) : Nat :=
  let magnitude := (length d.digits : Int) + d.exponent
  if d.digits = 0 ∨ magnitude < -400 then 0
  else if 400 < magnitude then infinityRank
  else if 0 ≤ d.exponent then
    Double.rankOfRatio (d.digits * 10 ^ d.exponent.toNat * Double.unitsPerOne) 1
  else Double.rankOfRatio (d.digits * Double.unitsPerOne) (10 ^ (-d.exponent).toNat)

/-- The double nearest to the decimal. -/
def toDouble (negative : Bool) (d : Decimal) : Double := Double.ofRank negative d.rank

/-- Moves trailing zeros of the digits into the exponent. -/
def stripZeros : Nat → Decimal → Decimal
  | 0, d => d
  | fuel + 1, d =>
    if d.digits ≠ 0 ∧ d.digits % 10 = 0 then stripZeros fuel ⟨d.digits / 10, d.exponent + 1⟩
    else d

/-- The exact value of a rank: a unit is 5^1074 / 10^1074. -/
def exact (rank : Nat) : Decimal := ⟨Double.units rank * 5 ^ 1074, -1074⟩

/-- The place of the decimal point: the least `k` with the value below `10 ^ k`. -/
def pointOf (units : Nat) : Int :=
  (length (units * 10 ^ 400 / Double.unitsPerOne) : Int) - 400

/-- The one of two decimals that reads back to the rank; if both do, `lower` tells
whether it is the one below. -/
def whichReads? (rank : Nat) (lower : Bool) (below above : Decimal) : Option Decimal :=
  if below.rank = rank then
    if above.rank = rank then some (if lower then below else above) else some below
  else if above.rank = rank then some above
  else none

/-- The neighbours of the value among the decimals with `n` digits, as far as
they read back to the rank; the nearer one if both do. -/
def withDigits? (rank : Nat) (point : Int) (n : Nat) : Option Decimal :=
  let units := Double.units rank
  let exponent := point - n
  let numerator := units * 10 ^ (-exponent).toNat
  let denominator := Double.unitsPerOne * 10 ^ exponent.toNat
  let floor := numerator / denominator
  let rest := numerator % denominator
  let lower := 2 * rest < denominator ∨ (2 * rest = denominator ∧ floor % 2 = 0)
  whichReads? rank lower ⟨floor, exponent⟩ ⟨floor + 1, exponent⟩

/-- The decimals with the fewest digits that read back to the rank, up to seventeen. -/
def search? (rank : Nat) : Option Decimal :=
  (List.range 17).findSome? fun i => withDigits? rank (pointOf (Double.units rank)) (i + 1)

/-- The decimal without trailing zeros, as long as it reads back to the rank. -/
def tidy (rank : Nat) (d : Decimal) : Decimal :=
  if (stripZeros 20 d).rank = rank then stripZeros 20 d else d

/-- The shortest decimal that reads back to the rank. Seventeen digits always
suffice; the exact value stands behind the search. -/
def shortest (rank : Nat) : Decimal := ((search? rank).map (tidy rank)).getD (exact rank)

/-! ## Layouts -/

/-- A sign of two code points at most: minus for negative, else plus if asked for. -/
def signText (negative plus : Bool) : Text :=
  if negative then [45] else if plus then [43] else []

/-- An exponent with its sign and at least two digits. -/
def exponentText (e : Int) : Text :=
  101 :: (if e < 0 then 45 else 43) :: Text.ofNatPadded 2 e.natAbs

/-- The digits of a non-zero decimal in the plain layout. -/
def plain (d : Decimal) : Text :=
  let digits := Text.ofNat d.digits
  let point := (digits.length : Int) + d.exponent
  if -4 < point ∧ point ≤ 16 then
    if point ≤ 0 then 48 :: 46 :: (List.replicate (-point).toNat 48 ++ digits)
    else
      let whole := digits.take point.toNat ++ List.replicate (point.toNat - digits.length) 48
      let fraction := digits.drop point.toNat
      whole ++ 46 :: if fraction.isEmpty then [48] else fraction
  else
    let mantissa := digits.take 1 ++ if digits.length = 1 then [] else 46 :: digits.drop 1
    mantissa ++ exponentText (point - 1)

end Decimal

namespace Double

/-- A magnitude in the plain layout. -/
def plainMagnitude (rank : Nat) : Text :=
  if rank = infinityRank then "inf"
  else if rank = 0 then "0.0"
  else (Decimal.shortest rank).plain

/-- The plain layout: the fewest digits that read back, always with a point or
an exponent. -/
def plain : Double → Text
  | .nan => "nan"
  | .number s r => Decimal.signText s false ++ plainMagnitude r.val

/-- The digits of `numerator / denominator` rounded to a whole number, ties to even. -/
def roundedRatio (numerator denominator : Nat) : Nat :=
  let floor := numerator / denominator
  let rest := numerator % denominator
  if denominator < 2 * rest ∨ (2 * rest = denominator ∧ floor % 2 = 1) then floor + 1 else floor

/-- A magnitude with a fixed number of places after the point. -/
def fixedMagnitude (places rank : Nat) : Text :=
  if rank = infinityRank then "inf"
  else
    let scaled := roundedRatio (units rank * 10 ^ places) unitsPerOne
    Text.ofNat (scaled / 10 ^ places) ++ 46 :: Text.ofNatPadded places (scaled % 10 ^ places)

/-- A fixed number of places after the point, with a plus sign if asked for. -/
def fixed (places : Nat) (plus : Bool) : Double → Text
  | .nan => Decimal.signText false plus ++ "nan"
  | .number s r => Decimal.signText s plus ++ fixedMagnitude places r.val

end Double

end ProofLedger
