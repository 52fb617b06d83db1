import ProofLedger.Text.Basic

/-!
# Blanks and lines

Three sets of code points, which differ: the white space of Unicode, the
blanks (white space and the four information separators), and the marks
that end a line.
-/

namespace ProofLedger.Text

/-- The code points with the property `White_Space`. -/
def isWhiteSpace (c : Nat) : Bool :=
  (9 ≤ c && c ≤ 13) || c == 32 || c == 0x85 || c == 0xA0 || c == 0x1680 ||
    (0x2000 ≤ c && c ≤ 0x200A) || c == 0x2028 || c == 0x2029 || c == 0x202F ||
    c == 0x205F || c == 0x3000

/-- White space, or one of the information separators U+001C to U+001F. -/
def isBlank (c : Nat) : Bool := isWhiteSpace c || (0x1C ≤ c && c ≤ 0x1F)

/-- Drops blanks at both ends. -/
def strip (t : Text) : Text := stripBy isBlank t

/-- Drops white space at both ends. -/
def trim (t : Text) : Text := stripBy isWhiteSpace t

/-- The code points that end a line. -/
def isLineEnd (c : Nat) : Bool :=
  (10 ≤ c && c ≤ 13) || (0x1C ≤ c && c ≤ 0x1E) || c == 0x85 || c == 0x2028 || c == 0x2029

/-- Lines without their ends; `open?` tells whether a line has begun, and
`current` holds it, last code point first. Carriage return and line feed in a
row end one line. -/
def linesFrom : Text → Bool → Text → List Text
  | [], false, _ => []
  | [], true, current => [current.reverse]
  | 13 :: 10 :: r, _, current => current.reverse :: linesFrom r false []
  | c :: r, _, current =>
    if isLineEnd c then current.reverse :: linesFrom r false []
    else linesFrom r true (c :: current)

/-- The lines of a text. A text that ends in a line end has no empty line
after it. -/
def lines (t : Text) : List Text := linesFrom t false []

/-- Writes every line end of a file as a line feed: carriage return and line
feed in a row become one, and so does a lone carriage return. -/
def universalNewlines : Text → Text
  | [] => []
  | 13 :: 10 :: r => 10 :: universalNewlines r
  | c :: r => (if c = 13 then 10 else c) :: universalNewlines r

end ProofLedger.Text
