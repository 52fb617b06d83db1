import ProofLedger.Number.Decimal

/-!
# Integers beside doubles

A caller may give an integer of any size where a double is meant. The two
are compared by their exact values, without rounding either of them: a
`Level` says where a number lies, and not-a-number lies nowhere.
-/

namespace ProofLedger

/-- A number as it was given. -/
inductive Quantity where
  | whole (n : Int)
  | double (d : Double)
  deriving DecidableEq, Repr

/-- Where a number lies: so many units of the least double, or past everything. -/
inductive Level where
  | bottom
  | units (n : Int)
  | top
  deriving DecidableEq, Repr

namespace Level

def lt : Level → Level → Bool
  | .bottom, .bottom => false
  | .bottom, _ => true
  | .units m, .units n => m < n
  | .units _, .top => true
  | _, _ => false

def le (a b : Level) : Bool := !lt b a

end Level

namespace Quantity

/-- Where the number lies. -/
def level? : Quantity → Option Level
  | .whole n => some (.units (n * Double.unitsPerOne))
  | .double d =>
    if d.isNan then none
    else if d.isInfinite then some (if d.isNegative then .bottom else .top)
    else some (.units d.signedUnits)

/-- Comparison of values; false when either side is not-a-number. -/
def lt (a b : Quantity) : Bool :=
  match a.level?, b.level? with
  | some x, some y => x.lt y
  | _, _ => false

def le (a b : Quantity) : Bool :=
  match a.level?, b.level? with
  | some x, some y => x.le y
  | _, _ => false

def neg : Quantity → Quantity
  | .whole n => .whole (-n)
  | .double d => .double d.neg

def abs : Quantity → Quantity
  | .whole n => .whole n.natAbs
  | .double d => .double d.abs

/-- The nearest double. -/
def toDouble : Quantity → Double
  | .whole n => .ofInt n
  | .double d => d

def zero : Quantity := .whole 0

end Quantity

end ProofLedger
