import ProofLedger.Number.Power

/-!
# Doubles, exactly

A double is not-a-number, or a sign and a *rank*. The rank counts the
magnitudes of binary64 from zero upwards: zero is 0, the least positive
one is 1, and infinity comes right after the greatest finite one. So the
order of magnitudes is the order of ranks, neighbours differ by one, and
rounding is finding a rank. Values are counted in units of the least
positive double, 2 ^ -1074; no machine arithmetic is involved.
-/

namespace ProofLedger

/-- The rank of infinity. -/
def infinityRank : Nat := 2047 * 2 ^ 52

/-- A binary64 value; both zeros are kept apart. -/
inductive Double where
  | nan
  | number (negative : Bool) (rank : Fin (infinityRank + 1))
  deriving DecidableEq, Repr

namespace Double

/-- The number of units that make one. -/
def unitsPerOne : Nat := 2 ^ 1074

/-- The magnitude of a rank in units. At the rank of infinity it is the value
that would come next if there were no greatest double. -/
def units (rank : Nat) : Nat :=
  if rank < 2 ^ 52 then rank
  else (2 ^ 52 + rank % 2 ^ 52) * 2 ^ (rank / 2 ^ 52 - 1)

/-- The rank nearest to `numerator / denominator` units; a tie goes to the even
rank, and what lies past the greatest double goes to infinity. -/
def rankOfRatio (numerator denominator : Nat) : Nat :=
  let shift := (numerator / denominator).log2 - 52
  let step := 2 ^ shift * denominator
  let floor := numerator / step
  let rest := numerator % step
  let up := step < 2 * rest ∨ (2 * rest = step ∧ floor % 2 = 1)
  min infinityRank (shift * 2 ^ 52 + floor + if up then 1 else 0)

/-- A double from a sign and a rank; ranks past infinity are infinity. -/
def ofRank (negative : Bool) (rank : Nat) : Double :=
  .number negative ⟨min infinityRank rank, by omega⟩

/-- The double nearest to a ratio of units. -/
def ofRatio (negative : Bool) (numerator denominator : Nat) : Double :=
  ofRank negative (rankOfRatio numerator denominator)

def zero : Double := ofRank false 0

def infinity (negative : Bool) : Double := ofRank negative infinityRank

/-- The double nearest to a natural number. -/
def ofNat (n : Nat) : Double := ofRatio false (n * unitsPerOne) 1

/-- The double nearest to an integer. -/
def ofInt (n : Int) : Double := ofRatio (n < 0) (n.natAbs * unitsPerOne) 1

def one : Double := ofNat 1

/-! ## Looking at a double -/

def isNan : Double → Bool
  | .nan => true
  | .number .. => false

def isInfinite : Double → Bool
  | .nan => false
  | .number _ r => r.val == infinityRank

def isFinite : Double → Bool
  | .nan => false
  | .number _ r => r.val != infinityRank

def isNegative : Double → Bool
  | .nan => false
  | .number s _ => s

/-- A rank with its sign: the place of a double among the doubles, where both
zeros share place 0. Not-a-number has no place. -/
def place? : Double → Option Int
  | .nan => none
  | .number s r => some (if s then -r.val else r.val)

/-- Comparison by place; false when either side has none. -/
def lt (a b : Double) : Bool :=
  match a.place?, b.place? with
  | some x, some y => x < y
  | _, _ => false

def le (a b : Double) : Bool :=
  match a.place?, b.place? with
  | some x, some y => x ≤ y
  | _, _ => false

/-- Numerical equality: zeros are equal, and not-a-number equals nothing. -/
def eq (a b : Double) : Bool :=
  match a.place?, b.place? with
  | some x, some y => x == y
  | _, _ => false

/-- The value of a finite double in units, with its sign. -/
def signedUnits : Double → Int
  | .nan => 0
  | .number s r => if s then -(units r.val : Int) else units r.val

/-- The integer that a finite double without fraction is. -/
def toInt? (d : Double) : Option Int :=
  if d.isFinite ∧ d.signedUnits % unitsPerOne = 0 then some (d.signedUnits / unitsPerOne)
  else none

/-- A finite double without its fraction. -/
def truncate (d : Double) : Int := d.signedUnits.tdiv unitsPerOne

/-- The fraction of a finite double, with its sign; it is exact. -/
def fraction (d : Double) : Double :=
  ofRatio d.isNegative (d.signedUnits.natAbs % unitsPerOne) 1

/-! ## Arithmetic

Each operation computes the exact result and rounds it once. -/

def neg : Double → Double
  | .nan => .nan
  | .number s r => .number (!s) r

def abs : Double → Double
  | .nan => .nan
  | .number _ r => .number false r

/-- The greater of two doubles; the first, unless the second is past it. -/
def max (a b : Double) : Double := if a.lt b then b else a

/-- A difference of equal values is zero without sign, except that taking plus
zero from minus zero leaves minus zero. -/
def sub (a b : Double) : Double :=
  if a.isNan || b.isNan then .nan
  else if a.isInfinite then
    if b.isInfinite && a.isNegative == b.isNegative then .nan else a
  else if b.isInfinite then b.neg
  else
    let d := a.signedUnits - b.signedUnits
    if d = 0 then ofRank (a.isNegative && !b.isNegative) 0
    else ofRatio (d < 0) d.natAbs 1

def add (a b : Double) : Double := a.sub b.neg

def mul (a b : Double) : Double :=
  let s := a.isNegative != b.isNegative
  if a.isNan || b.isNan then .nan
  else if a.isInfinite then if b.signedUnits = 0 then .nan else infinity s
  else if b.isInfinite then if a.signedUnits = 0 then .nan else infinity s
  else ofRatio s (a.signedUnits.natAbs * b.signedUnits.natAbs) unitsPerOne

/-- Division; by zero it gives infinity, or not-a-number for zero by zero. -/
def div (a b : Double) : Double :=
  let s := a.isNegative != b.isNegative
  if a.isNan || b.isNan then .nan
  else if a.isInfinite then if b.isInfinite then .nan else infinity s
  else if b.isInfinite then ofRank s 0
  else if b.signedUnits = 0 then if a.signedUnits = 0 then .nan else infinity s
  else ofRatio s (a.signedUnits.natAbs * unitsPerOne) b.signedUnits.natAbs

end Double

end ProofLedger
