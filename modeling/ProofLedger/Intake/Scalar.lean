import ProofLedger.Intake.Issue
import ProofLedger.Number.Reading

/-!
# Scalars from values of unknown kind

A field of a model accepts more kinds than its own: a truth value or a
numeral where an integer is wanted, an integer where a double is wanted.
Each function here says which values it takes, and the cause when it
takes none.
-/

namespace ProofLedger.Intake

/-- Text: any text, or UTF-8 octets. -/
def text (d : Data) : Checked Text :=
  match d with
  | .text t => .ok t
  | .bytes b =>
    match Text.ofUtf8 b with
    | .ok t => .ok t
    | .error _ => .fail .undecodableText d
  | _ => .fail .notText d

/-- Text with octets and with at least one code point. -/
def name (d : Data) : Checked Name := do
  let t ← text d
  if h : t.Scalar then
    if ne : t ≠ [] then .ok ⟨t, h, ne⟩ else .fail .emptyText d
  else .fail .undecodableText d

/-! ## Numerals

There may be white space around a numeral, a plus sign, zeros in front, a fraction of
zeros, and underscores. What is left without them is a bare numeral. The zeros may even
stand in front of a minus sign, but then none may follow it. -/

/-- Removes underscores that stand one by one inside a text; any others stay. -/
def dropUnderscores (t : Text) : Text :=
  if t.head? = some 95 ∨ t.getLast? = some 95 ∨ Text.hasRun [95, 95] t = true then t
  else t.filter (· ≠ 95)

/-- Drops a point followed by nothing but zeros, at least one. -/
def dropZeroFraction (t : Text) : Text :=
  match Text.cutAt 46 t with
  | (whole, some zeros) => if !zeros.isEmpty && zeros.all (· == 48) then whole else t
  | (_, none) => t

/-- Drops a plus sign; no other sign may follow it. -/
def dropPlus : Text → Option Text
  | 43 :: 45 :: _ => none
  | 43 :: r => some r
  | t => some t

/-- Whether a text starts as a number does. -/
def startsNumber : Text → Bool
  | c :: _ => Text.isDigit c || c == 45
  | [] => false

/-- Drops zeros at the start and underscores after the first of them. A number has to
follow; of zeros and underscores alone the last one stays. -/
def dropZeros : Text → Option Text
  | 48 :: r =>
    match r.dropWhile fun c => c == 48 || c == 95 with
    | [] => some [r.getLastD 48]
    | rest => if startsNumber rest then some rest else none
  | t => if startsNumber t then some t else none

/-- A numeral without all that may be missing from it. -/
def bareNumeral (t : Text) : Option Text := do
  let t := dropZeroFraction (← dropPlus t.trim)
  let t ← match t with
    | 45 :: r => (dropZeros r).map (45 :: ·)
    | t => dropZeros t
  pure (dropUnderscores t)

/-- The sign of a bare numeral, and what follows it. -/
def cutMinus : Text → Bool × Text
  | 45 :: r => (true, r)
  | t => (false, t)

/-- Whether a zero stands in front of other digits. -/
def isPadded : Text → Bool
  | 48 :: _ :: _ => true
  | _ => false

/-- The most code points that the sign and the digits of a numeral may take. -/
def maxNumeral : Nat := 4300

/-- Whether the sign and the digits of a bare numeral are too many. -/
def isLong (negative : Bool) (body : Text) : Bool :=
  maxNumeral < (body.takeWhile Text.isDigit).length + if negative then 1 else 0

/-- The integer that a numeral spells, unless the numeral is too long. -/
def intOfText (d : Data) (t : Text) : Checked Int :=
  match bareNumeral t with
  | none => .fail .unreadableInt d
  | some numeral =>
    let (negative, body) := cutMinus numeral
    if isPadded body then .fail .unreadableInt d
    else if isLong negative body then .fail .longInt d
    else match Number.natOfDigits? body with
      | some n => .ok (if negative then -(n : Int) else n)
      | none => .fail .unreadableInt d

/-- The integer that a value of a kind of its own is worth. -/
def intOfWorth (d : Data) : Worth → Checked Int
  | .nothing => .fail .notInt d
  | .int n => .ok n
  | .fraction => .fail .fractional d
  | .infinite => .fail .notFinite d
  | .tooLarge => .fail .longInt d

/-- An integer: an integer, a truth value, a double without fraction of less
than 2^63, a numeral, or a value of another kind that is worth one. -/
def int (d : Data) : Checked Int :=
  match d with
  | .int n => .ok n
  | .bool b => .ok (Key.ofBool b)
  | .double x =>
    if !x.isFinite then .fail .notFinite d
    else match x.toInt? with
      | none => .fail .fractional d
      | some n => if n.natAbs < 2 ^ 63 then .ok n else .fail .longInt d
  | .text t => if t.Scalar then intOfText d t else .fail .undecodableText d
  | .bytes b =>
    match Text.ofUtf8 b with
    | .ok t => intOfText d t
    | .error _ => .fail .unreadableInt d
  | .other _ _ worth => intOfWorth d worth
  | _ => .fail .notInt d

/-- An integer that is not negative. -/
def nat (d : Data) : Checked Nat := do
  match ← int d with
  | .ofNat n => .ok n
  | .negSucc _ => .fail .negative d

/-- The double that a numeral or name spells: one without underscores may have white
space around it, one with underscores may not. -/
def doubleOfText (d : Data) (t : Text) : Checked Double :=
  match Number.readBareDouble? t.trim <|> Number.readBareDouble? (dropUnderscores t) with
  | some x => .ok x
  | none => .fail .unreadableDouble d

/-- A double: a double, a truth value, an integer within the range of doubles,
or a numeral. -/
def double (d : Data) : Checked Double :=
  match d with
  | .double x => .ok x
  | .int n => if (Double.ofInt n).isFinite then .ok (Double.ofInt n) else .fail .notDouble d
  | .bool b => .ok (Double.ofInt (Key.ofBool b))
  | .text t => if t.Scalar then doubleOfText d t else .fail .undecodableText d
  | .bytes b =>
    match Text.ofUtf8 b with
    | .ok t => doubleOfText d t
    | .error _ => .fail .unreadableDouble d
  | _ => .fail .notDouble d

/-- A double of at least zero. -/
def nonNegative (d : Data) : Checked { x : Double // Double.zero.le x = true } := do
  let x ← double d
  if h : Double.zero.le x = true then .ok ⟨x, h⟩ else .fail .negative d

/-- A double greater than zero. -/
def positive (d : Data) : Checked Double := do
  let x ← double d
  if Double.zero.lt x then .ok x else .fail .notPositive d

/-- The words for true. -/
def trueWords : List Text := ["1", "true", "t", "yes", "y", "on"]

/-- The words for false. -/
def falseWords : List Text := ["0", "false", "f", "no", "n", "off"]

/-- The truth value that a word in any case names. -/
def boolOfWord? (t : Text) : Option Bool :=
  let low := t.map Text.lower
  if trueWords.contains low then some true
  else if falseWords.contains low then some false
  else none

def boolOfText (d : Data) (t : Text) : Checked Bool :=
  match boolOfWord? t with
  | some b => .ok b
  | none => .fail .unreadableBool d

/-- The truth value of zero or one; other integers of 64 bits mean none. -/
def boolOfInt (d : Data) (n : Int) : Checked Bool :=
  if n = 0 then .ok false else if n = 1 then .ok true else .fail .unreadableBool d

/-- A truth value: a truth value, zero or one, or a word. -/
def bool (d : Data) : Checked Bool :=
  match d with
  | .bool b => .ok b
  | .int n => if -2 ^ 63 ≤ n ∧ n < 2 ^ 63 then boolOfInt d n else .fail .notBool d
  | .double x =>
    match x.toInt? with
    | some n => if n.natAbs < 2 ^ 63 then boolOfInt d n else .fail .notBool d
    | none => .fail .notBool d
  | .text t => if t.Scalar then boolOfText d t else .fail .undecodableText d
  | .bytes b =>
    match Text.ofUtf8 b with
    | .ok t => boolOfText d t
    | .error _ => .fail .unreadableBool d
  | _ => .fail .notBool d

/-- The items of a list or tuple; `cause` says which of the two was wanted. -/
def sequence {α : Type} (cause : Cause) (check : Data → Checked α) (d : Data) :
    Checked (List α) :=
  match d with
  | .list xs => .items check xs
  | .tuple xs => .items check xs
  | _ => .fail cause d

/-- One given text and no other. -/
def literal (expected : Text) (d : Data) : Checked Text :=
  match d with
  | .text t =>
    if t = expected then .ok t
    else if t.Scalar then .fail (.notLiteral expected) d
    else .fail .undecodableText d
  | _ => .fail (.notLiteral expected) d

end ProofLedger.Intake
