import ProofLedger.Reference

/-!
# Makes

A make is a kind of prover or oracle that a configuration can name. Either
make of this library can stand where the other belongs; it then answers
every question with an error.
-/

namespace ProofLedger

/-- What a configuration can name. -/
inductive Make where
  | referenceEngine
  | referenceOracle
  deriving DecidableEq, Repr

namespace Make

def label : Make → Text
  | .referenceEngine => "ReferenceEngine"
  | .referenceOracle => "ReferenceOracle"

/-- The failure of a make that is asked for something it cannot do. -/
def lacks (m : Make) (member : Text) : Failure :=
  .fault (.foreign "AttributeError"
    ("'" ++ m.label ++ "' object has no attribute '" ++ member ++ "'"))

/-- The make as a prover. -/
def prover : Make → Prover
  | .referenceEngine => Reference.prover
  | .referenceOracle => ⟨fun _ _ => .raised (lacks .referenceOracle "prove"), Reference.checks⟩

/-- The make as an oracle. -/
def oracle : Make → Oracle
  | .referenceOracle => Reference.oracle
  | .referenceEngine => ⟨fun _ _ _ => .raised (lacks .referenceEngine "verify"), Reference.checks⟩

end Make

end ProofLedger
