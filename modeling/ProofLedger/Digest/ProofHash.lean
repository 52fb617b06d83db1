import ProofLedger.Digest.Canonical
import ProofLedger.Record.Object
import ProofLedger.Record.Input

/-!
# The hash of a proof

The digest of an input together with the objects proved for it, in order.
`proofPreimage` is what is digested: the canonical text of both.
-/

namespace ProofLedger

/-- Input and objects as one value. -/
def proofPayload (input : ProveInput) (objects : List ProofObject) : Data :=
  .dict [(("input" : Text), input.toData),
    (("proof" : Text), .list (objects.map ProofObject.toData))]

/-- The octets that are digested. -/
def proofPreimage (input : ProveInput) (objects : List ProofObject) :
    Except CanonicalFault Bytes :=
  (proofPayload input objects).canonicalText.map Text.Utf8.encode

/-- The digest of an input and the objects proved for it. -/
def hashProof (input : ProveInput) (objects : List ProofObject) : Except CanonicalFault Text :=
  (proofPreimage input objects).map Sha256.hex

end ProofLedger
