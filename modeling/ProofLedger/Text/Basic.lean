import ProofLedger.Number.Power

/-!
# Text as code points

A record, a message and a file name are all lists of code points. The
list may hold a lone surrogate, because an escape in a JSON document can
name one; `Text.Scalar` is the property of the texts that hold none,
which are exactly the ones that have a UTF-8 form.

Nothing here knows about Unicode properties: blanks, digits outside
ASCII, printability and normal forms have modules of their own.
-/

namespace ProofLedger

/-- Text is a list of code points, lone surrogates included. -/
abbrev Text := List Nat

/-- Octets, as a file or a digest holds them. -/
abbrev Bytes := List UInt8

namespace Text

/-- The code points of a string. -/
def ofString (s : String) : Text := s.toList.map Char.toNat

instance : Coe String Text := ⟨ofString⟩

/-- A surrogate is half of a pair of 16-bit units and no character. -/
def isSurrogate (c : Nat) : Bool := 0xD800 ≤ c && c ≤ 0xDFFF

/-- A scalar value is a code point that UTF-8 can write. -/
def isScalar (c : Nat) : Bool := c < 0x110000 && !isSurrogate c

/-- The text holds no lone surrogate. -/
def Scalar (t : Text) : Prop := t.all isScalar = true

instance (t : Text) : Decidable t.Scalar := inferInstanceAs (Decidable (_ = _))

/-- Reads the text as a string, with U+FFFD in place of a lone surrogate. -/
def toString (t : Text) : String :=
  String.ofList (t.map fun c => if isScalar c then Char.ofNat c else Char.ofNat 0xFFFD)

/-! ## ASCII classes -/

def isDigit (c : Nat) : Bool := 48 ≤ c && c ≤ 57

def isUpper (c : Nat) : Bool := 65 ≤ c && c ≤ 90

def isLower (c : Nat) : Bool := 97 ≤ c && c ≤ 122

/-- An ASCII letter or digit. -/
def isWord (c : Nat) : Bool := isDigit c || isUpper c || isLower c

/-- The lower case of an ASCII letter; any other code point stays. -/
def lower (c : Nat) : Nat := if isUpper c then c + 32 else c

/-- The upper case of an ASCII letter; any other code point stays. -/
def upper (c : Nat) : Nat := if isLower c then c - 32 else c

/-! ## Decimal numerals -/

/-- The decimal digits of a number, most significant first, no leading zero. -/
def ofNat (n : Nat) : Text :=
  if n < 10 then [48 + n] else ofNat (n / 10) ++ [48 + n % 10]
termination_by n
decreasing_by omega

/-- The decimal form of an integer, with a minus sign when it is negative. -/
def ofInt : Int → Text
  | .ofNat n => ofNat n
  | .negSucc n => 45 :: ofNat (n + 1)

/-- The number that a run of ASCII digits spells. -/
def natValue (t : Text) : Nat := t.foldl (fun n c => 10 * n + (c - 48)) 0

/-- Fills up with `c` on the left to at least `width` code points. -/
def padLeft (width c : Nat) (t : Text) : Text :=
  List.replicate (width - t.length) c ++ t

/-- A number in exactly `width` digits when it has no more than that. -/
def ofNatPadded (width n : Nat) : Text := padLeft width 48 (ofNat n)

/-! ## Cutting and joining -/

/-- The parts with `separator` between neighbours. -/
def join (separator : Text) (parts : List Text) : Text := separator.intercalate parts

/-- The part before the first `c` and, when there is one, the part after it. -/
def cutAt (c : Nat) : Text → Text × Option Text
  | [] => ([], none)
  | x :: r =>
    if x = c then ([], some r)
    else ((x :: (cutAt c r).1), (cutAt c r).2)

/-- The parts between the occurrences of `c`; always at least one. -/
def splitOn (c : Nat) : Text → List Text
  | [] => [[]]
  | x :: r =>
    if x = c then [] :: splitOn c r
    else match splitOn c r with
      | [] => [[x]]
      | p :: ps => (x :: p) :: ps

/-- Drops the code points that satisfy `p` at both ends. -/
def stripBy (p : Nat → Bool) (t : Text) : Text :=
  ((t.dropWhile p).reverse.dropWhile p).reverse

/-- Whether `part` occurs in the text as a run. -/
def hasRun (part : Text) : Text → Bool
  | [] => part.isEmpty
  | x :: r => part.isPrefixOf (x :: r) || hasRun part r

/-- How many brackets and braces the text opens, wherever they stand. -/
def openings (t : Text) : Nat := t.countP fun c => c == 91 || c == 0x7B

end Text

/-- Text that UTF-8 can write and that is not empty. -/
abbrev Name := { t : Text // t.Scalar ∧ t ≠ [] }

end ProofLedger
