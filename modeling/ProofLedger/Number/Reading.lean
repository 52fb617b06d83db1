import ProofLedger.Number.Decimal
import ProofLedger.Text.Numeral

/-!
# Reading numbers from text

The grammar of a number that a person types: an optional sign; digits
with single underscores between them; for doubles also a point, an
exponent, and the names of the values that have no digits. These readers
see ASCII only: whoever accepts digits of other scripts maps them first
(`Text.toAscii`), and blanks around the number are the caller's.
-/

namespace ProofLedger.Number

/-- A numeral has at most this many digits. -/
def maxDigits : Nat := 4300

/-- Whether an integer fits a numeral. -/
def fits (n : Int) : Bool := n.natAbs < 10 ^ maxDigits

/-- What is said of an integer that fits none. -/
def longMessage : Text :=
  "Exceeds the limit (4300 digits) for integer string conversion; " ++
    "use sys.set_int_max_str_digits() to increase the limit"

/-- A sign and what follows it. -/
def cutSign : Text → Bool × Text
  | 45 :: r => (true, r)
  | 43 :: r => (false, r)
  | t => (false, t)

/-- Removes underscores, each of which must stand between two digits. -/
def dropUnderscores : Text → Option Text
  | a :: 95 :: b :: r =>
    if Text.isDigit a && Text.isDigit b then (dropUnderscores (b :: r)).map (a :: ·) else none
  | 95 :: _ => none
  | a :: r => (dropUnderscores r).map (a :: ·)
  | [] => some []

/-- A run of digits that is not empty, as a number. -/
def natOfDigits? (t : Text) : Option Nat :=
  if !t.isEmpty && t.all Text.isDigit then some (Text.natValue t) else none

/-- An integer: optional sign, digits, single underscores between digits. -/
def readInt? (t : Text) : Option Int := do
  let (negative, body) := cutSign t
  let n ← natOfDigits? (← dropUnderscores body)
  pure (if negative then -(n : Int) else n)

/-- The parts of a decimal numeral: digits before and after the point and the
exponent. -/
structure Numeral where
  whole : Text
  fraction : Text
  exponent : Int
  deriving DecidableEq, Repr

/-- The decimal that a numeral spells. -/
def Numeral.toDecimal (n : Numeral) : Decimal :=
  ⟨Text.natValue (n.whole ++ n.fraction), n.exponent - n.fraction.length⟩

/-- Cuts the leading digits off. -/
def cutDigits (t : Text) : Text × Text := (t.takeWhile Text.isDigit, t.dropWhile Text.isDigit)

/-- An exponent at the end of a numeral, or nothing. -/
def readExponent? : Text → Option Int
  | [] => some 0
  | c :: r =>
    if c = 101 ∨ c = 69 then do
      let (negative, body) := cutSign r
      let n ← natOfDigits? body
      pure (if negative then -(n : Int) else n)
    else none

/-- A numeral with digits before or after an optional point. -/
def readNumeral? (t : Text) : Option Numeral := do
  let (whole, r) := cutDigits t
  let (fraction, r) := match r with
    | 46 :: r => cutDigits r
    | r => ([], r)
  if whole.isEmpty && fraction.isEmpty then none
  else pure ⟨whole, fraction, ← readExponent? r⟩

/-- A double without underscores: a numeral, or a name in any case, after an
optional sign. -/
def readBareDouble? (t : Text) : Option Double := do
  let (negative, body) := cutSign t
  let low := body.map Text.lower
  if low = "inf" ∨ low = "infinity" then pure (Double.infinity negative)
  else if low = "nan" then pure .nan
  else pure ((← readNumeral? body).toDecimal.toDouble negative)

/-- A double: as above, with single underscores between digits. -/
def readDouble? (t : Text) : Option Double := do readBareDouble? (← dropUnderscores t)

/-- An integer as a person types it: digits of any script, blanks around it, and no
more digits than a numeral may have. -/
def typedInt? (t : Text) : Option Int :=
  let plain := (Text.toAscii t).trim
  if maxDigits < plain.countP Text.isDigit then none else readInt? plain

/-- A double as a person types it. -/
def typedDouble? (t : Text) : Option Double := readDouble? (Text.toAscii t).trim

end ProofLedger.Number
