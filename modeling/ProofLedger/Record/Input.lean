import ProofLedger.Intake.Fields

/-!
# Inputs of a proof

A proof is determined by a length and two digests of five 64-bit words
each. `ProveInput.ofFields` checks an input that comes from outside.
-/

namespace ProofLedger

/-- Five words of 64 bits. -/
structure Words where
  values : List Nat
  length_eq : values.length = 5
  bounded : ∀ w ∈ values, w < 2 ^ 64
  deriving DecidableEq, Repr

namespace Words

/-- The first integer that is no 64-bit word. -/
def firstOutside? (xs : List Int) : Option Int := xs.find? fun w => w < 0 || 2 ^ 64 ≤ w

/-- Five words from integers. -/
def ofInts? (xs : List Int) : Option Words :=
  let values := xs.map Int.toNat
  if h : values.length = 5 ∧ ∀ w ∈ values, w < 2 ^ 64 then
    if firstOutside? xs = none then some ⟨values, h.1, h.2⟩ else none
  else none

def countMessage (field : Text) (count : Nat) : Text :=
  field ++ " must have exactly 5 words, got " ++ Text.ofNat count

/-- What is said of an integer that is no word, unless it is too long to be shown. -/
def rangeMessage (field : Text) (w : Int) : Text :=
  if Number.fits w then
    field ++ " word " ++ Text.ofInt w ++ " out of range for an unsigned 64-bit word"
  else Number.longMessage

/-- A list or tuple of exactly five integers, each of 64 bits; the first fault
counts. -/
def check (field : Text) (d : Data) : Checked Words := do
  let xs ← Intake.sequence .notTuple Intake.int d
  match ofInts? xs with
  | some ws => .ok ws
  | none =>
    if xs.length = 5 then
      .fail (.rule (rangeMessage field ((firstOutside? xs).getD 0))) d
    else .fail (.rule (countMessage field xs.length)) d

/-- The words as values. -/
def toData (ws : Words) : Data := .list (ws.values.map fun w => .int (w : Nat))

/-- The words in brackets, as messages show them. -/
def display (ws : Words) : Text := ws.toData.display

end Words

/-- What a proof is made from. -/
structure ProveInput where
  length : Nat
  blockCommitment : Words
  nonce : Words
  deriving DecidableEq, Repr

namespace ProveInput

/-- The names of the fields, in order. -/
def fieldNames : List Text := ["length", "block_commitment", "nonce"]

/-- Checks every field. -/
def ofFields (fields : Intake.Fields) : Checked ProveInput :=
  (Intake.closed fields fieldNames
    (((Intake.required fields "length" Intake.nat).both
      (Intake.required fields "block_commitment" (Words.check "block_commitment"))).both
      (Intake.required fields "nonce" (Words.check "nonce")))).map fun p => ⟨p.1.1, p.1.2, p.2⟩

def modelName : Text := "ProveInput"

/-- An input from a dictionary. -/
def check (d : Data) : Checked ProveInput := Intake.model modelName ofFields d

/-- An input from fields given one by one. -/
def build (fields : Intake.Fields) : Except Refusal ProveInput :=
  (ofFields fields).mapError (⟨modelName, ·⟩)

/-- The fields as entries. -/
def toFields (i : ProveInput) : Intake.Fields :=
  [(("length" : Text), .int i.length), (("block_commitment" : Text), i.blockCommitment.toData),
    (("nonce" : Text), i.nonce.toData)]

def toData (i : ProveInput) : Data := .dict i.toFields

end ProveInput

end ProofLedger
