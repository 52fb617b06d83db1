import ProofLedger.Digest.ProofHash
import ProofLedger.Failure

/-!
# Provers and oracles

A prover turns an input into objects and a hash; an oracle judges objects
against an input. Neither belongs to the ledger, so what they answer is
taken as it comes: objects may be pairs of a tag and octets in any
container, and a verdict may be anything. Either of them may offer checks
that are cheaper than a judgment: the shape that a proof has, and the
hash of its objects. `RawObject.toObject` says which answers are objects.
-/

namespace ProofLedger

/-- An object as a prover hands it over. -/
inductive RawObject where
  | object (o : ProofObject)
  | other (d : Data)
  deriving Repr

/-- How a prover answers. -/
inductive ProveAnswer where
  | proved (objects : List RawObject) (hash : Data)
  /-- There is no proof, for the reason given. -/
  | failed (diagnostic : Text)
  | raised (failure : Failure)
  deriving Repr

/-- How an oracle answers. -/
inductive JudgeAnswer where
  | judged (verdict : Data)
  /-- No judgment was reached, for the reason given. -/
  | failed (diagnostic : Text)
  | raised (failure : Failure)
  deriving Repr

/-- The checks that a prover or an oracle offers: the shape of a proof of some
length, and the hash of a proof. -/
structure Prechecks where
  shape? : Option (Nat → Except Failure ProofShape)
  hash? : Option (ProveInput → List ProofObject → Except Failure Text)

namespace Prechecks

def none : Prechecks := ⟨.none, .none⟩

/-- Each check from the first party that offers it. -/
def orElse (a b : Prechecks) : Prechecks := ⟨a.shape? <|> b.shape?, a.hash? <|> b.hash?⟩

end Prechecks

/-- A prover; the number says how many proofs it was asked for before. -/
structure Prover where
  prove : Nat → ProveInput → ProveAnswer
  checks : Prechecks

/-- An oracle; the number says how many judgments it was asked for before. -/
structure Oracle where
  judge : Nat → ProveInput → List ProofObject → JudgeAnswer
  checks : Prechecks

namespace RawObject

/-- The items of a value that has items: code points of a text, octets, or the
keys of a dictionary. -/
def elements? : Data → Option (List Data)
  | .list xs => some xs
  | .tuple xs => some xs
  | .dict es => some (es.map fun e => e.1.toData)
  | .text t => some (t.map fun c => .text [c])
  | .bytes b => some (b.map fun o => .int o.toNat)
  | _ => none

/-- An octet from an integer. -/
def octet : Data → Except ObjectFault UInt8
  | .int n => if 0 ≤ n ∧ n < 256 then .ok (.ofNat n.toNat) else .error .byteRange
  | .bool b => .ok (if b then 1 else 0)
  | d => .error (.notInteger d.kind)

/-- The most zero octets that there is room for. -/
def maxZeros : Int := 2 ^ 33

/-- As many zero octets as a number says. -/
def zeros (n : Int) : Except ObjectFault Bytes :=
  if n < -2 ^ 63 ∨ 2 ^ 63 ≤ n then .error .hugeCount
  else if n < 0 then .error .negativeCount
  else if 2 ^ 63 - 34 < n then .error .hugePayload
  else if maxZeros < n then .error .noRoom
  else .ok (List.replicate n.toNat 0)

/-- The octets of an object: octets, the integers of a container, or a number of
zeros. -/
def payload (d : Data) : Except ObjectFault Bytes :=
  match d with
  | .bytes b => .ok b
  | .text _ => .error .textPayload
  | .int n => zeros n
  | .bool b => zeros (Key.ofBool b)
  | d =>
    match elements? d with
    | some xs => xs.mapM octet
    | none => .error (.noBytes d.kind)

/-- The two items of a value that has two. -/
def pair (d : Data) : Except ObjectFault (Data × Data) :=
  match elements? d with
  | none => .error (.notIterable d.kind)
  | some [a, b] => .ok (a, b)
  | some xs => .error (if xs.length < 2 then .tooFew xs.length else .tooMany)

/-- An object, or a pair of a tag and octets as one. -/
def toObject : RawObject → Except Failure ProofObject
  | .object o => .ok o
  | .other d => do
    let (tag, content) ← (pair d).mapError fun f => .fault (.object f)
    let octets ← (payload content).mapError fun f => .fault (.object f)
    (ProofObject.ofBytes tag octets).mapError .refused

end RawObject

end ProofLedger
