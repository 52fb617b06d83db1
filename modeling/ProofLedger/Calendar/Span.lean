import ProofLedger.Calendar.Moment
import ProofLedger.Data.Basic

/-!
# Spans of time

A span is a whole number of microseconds, made from days, seconds and
microseconds that may have fractions. The whole part of each amount is
exact; what its fraction contributes is computed in doubles, and the
remainders of all amounts together are rounded once, a half going to the
even microsecond.
-/

namespace ProofLedger.Calendar

/-- Why amounts make no span. -/
inductive SpanFault where
  | notNumber (unit kind : Text)
  | infinite
  | notANumber
  /-- More days than a span may have. -/
  | tooLong (days : Int)
  deriving DecidableEq, Repr

/-- Whole microseconds, and a remainder of less than one. -/
structure Amount where
  whole : Int
  rest : Double
  deriving DecidableEq, Repr

/-- Adds an amount of the named unit, which is `factor` microseconds long. -/
def Amount.add (a : Amount) (unit : Text) (factor : Nat) (d : Data) : Except SpanFault Amount :=
  match d with
  | .int n => .ok { a with whole := a.whole + n * factor }
  | .bool b => .ok { a with whole := a.whole + Key.ofBool b * factor }
  | .double x =>
    if x.isNan then .error .notANumber
    else if x.isInfinite then .error .infinite
    else
      let whole := a.whole + x.truncate * factor
      if x.fraction.eq .zero then .ok { a with whole }
      else
        let part := (Double.ofNat factor).mul x.fraction
        .ok ⟨whole + part.truncate, a.rest.add part.fraction⟩
  | d => .error (.notNumber unit d.kind)

/-- A whole number of microseconds; a half goes to the even one. -/
def Amount.round (a : Amount) : Int :=
  let units := a.whole * Double.unitsPerOne + a.rest.signedUnits
  let floor := units.fdiv Double.unitsPerOne
  let rest := units - floor * Double.unitsPerOne
  if Double.unitsPerOne < 2 * rest ∨ (2 * rest = Double.unitsPerOne ∧ floor % 2 = 1) then floor + 1
  else floor

/-- The most days that a span has in either direction. -/
def maxDays : Nat := 999999999

/-- The span of some days, seconds and microseconds. -/
def span (days seconds micros : Data) : Except SpanFault Int := do
  let a ← Amount.add ⟨0, .zero⟩ "microseconds" 1 micros
  let a ← a.add "seconds" second seconds
  let a ← a.add "days" daySpan days
  let n := a.round
  let whole := n.fdiv daySpan
  if whole.natAbs ≤ maxDays then .ok n else .error (.tooLong whole)

def SpanFault.message : SpanFault → Text
  | .notNumber unit kind =>
    "unsupported type for timedelta " ++ unit ++ " component: " ++ kind
  | .infinite => "cannot convert float infinity to integer"
  | .notANumber => "cannot convert float NaN to integer"
  | .tooLong days =>
    if days.natAbs < 2 ^ 31 then
      "days=" ++ Text.ofInt days ++ "; must have magnitude <= " ++ Text.ofNat maxDays
    else "Python int too large to convert to C int"

end ProofLedger.Calendar
