import ProofLedger.Text.Hex
import ProofLedger.Text.Printable

/-!
# Quoted text

A text is quoted between single marks, or between double marks when it
holds a single mark and no double one. The quoting mark and the backslash
are escaped, and so is every code point that does not print.
-/

namespace ProofLedger.Text.Quoted

def single : Nat := 39

def double : Nat := 34

def backslash : Nat := 92

/-- The mark that needs fewer escapes. -/
def markFor (holdsSingle holdsDouble : Bool) : Nat :=
  if holdsSingle && !holdsDouble then double else single

/-- A code point between quoting marks. -/
def escape (mark c : Nat) : Text :=
  if c = mark ∨ c = backslash then [backslash, c]
  else if c = 10 then "\\n"
  else if c = 13 then "\\r"
  else if c = 9 then "\\t"
  else if isPrintable c then [c]
  else if c < 0x100 then "\\x" ++ Hex.ofNat 2 c
  else if c < 0x10000 then "\\u" ++ Hex.ofNat 4 c
  else "\\U" ++ Hex.ofNat 8 c

end ProofLedger.Text.Quoted

namespace ProofLedger.Text

/-- The text between quoting marks. -/
def quoted (t : Text) : Text :=
  let mark := Quoted.markFor (t.contains Quoted.single) (t.contains Quoted.double)
  mark :: (t.flatMap (Quoted.escape mark) ++ [mark])

/-- Octets between quoting marks after a `b`; octets outside ASCII are escaped. -/
def quotedBytes (bytes : Bytes) : Text :=
  let points := bytes.map UInt8.toNat
  let mark := Quoted.markFor (points.contains Quoted.single) (points.contains Quoted.double)
  let escape := fun c =>
    if 0x7F ≤ c then "\\x" ++ Hex.ofNat 2 c else Quoted.escape mark c
  98 :: mark :: (points.flatMap escape ++ [mark])

end ProofLedger.Text
