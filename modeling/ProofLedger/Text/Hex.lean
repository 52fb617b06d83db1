import ProofLedger.Text.Utf8

/-!
# Hexadecimal text

Octets are written as two lower-case digits each. `isHexText` is the
language of such texts, and `decode?` is the way back.
-/

namespace ProofLedger.Text.Hex

/-- A lower-case hexadecimal digit. -/
def isHexDigit (c : Nat) : Bool := isDigit c || (97 ≤ c && c ≤ 102)

/-- The value of a hexadecimal digit of either case. -/
def digitValue? (c : Nat) : Option Nat :=
  if isDigit c then some (c - 48)
  else if 97 ≤ c ∧ c ≤ 102 then some (c - 87)
  else if 65 ≤ c ∧ c ≤ 70 then some (c - 55)
  else none

/-- The two digits of an octet. -/
def encodeByte (b : UInt8) : Text :=
  [Utf8.hexDigit (b.toNat / 16), Utf8.hexDigit (b.toNat % 16)]

/-- Octets in lower-case hexadecimal digits. -/
def encode (bytes : Bytes) : Text := bytes.flatMap encodeByte

/-- Pairs of hexadecimal digits as octets. -/
def decode? : Text → Option Bytes
  | [] => some []
  | a :: b :: r => do
    let high ← digitValue? a
    let low ← digitValue? b
    let rest ← decode? r
    pure (.ofNat (high * 16 + low) :: rest)
  | [_] => none

/-- An even number of lower-case hexadecimal digits and nothing else. -/
def isHexText : Text → Bool
  | [] => true
  | a :: b :: r => isHexDigit a && isHexDigit b && isHexText r
  | [_] => false

theorem isHexDigit_hexDigit {n : Nat} (h : n < 16) : isHexDigit (Utf8.hexDigit n) = true := by
  unfold isHexDigit Utf8.hexDigit isDigit
  split <;> simp <;> omega

/-- What `encode` writes is hexadecimal text. -/
theorem isHexText_encode (bytes : Bytes) : isHexText (encode bytes) = true := by
  induction bytes with
  | nil => rfl
  | cons b r ih =>
    have low : b.toNat % 16 < 16 := Nat.mod_lt _ (by decide)
    have high : b.toNat / 16 < 16 := by have := b.toNat_lt; omega
    show isHexText (_ :: _ :: encode r) = true
    simp only [isHexText, isHexDigit_hexDigit high, isHexDigit_hexDigit low, ih, Bool.and_self]

/-- A number in exactly `width` hexadecimal digits, the lowest ones. -/
def ofNat : Nat → Nat → Text
  | 0, _ => []
  | width + 1, n => ofNat width (n / 16) ++ [Utf8.hexDigit (n % 16)]

end ProofLedger.Text.Hex
