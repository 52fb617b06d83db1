import ProofLedger.Prover
import ProofLedger.Digest.Sha256

/-!
# The reference prover

A prover without a proof system behind it: what it calls a proof is
derived from the input by digests alone, so the same input has the same
objects for ever. For length `n` these are, in this order, one `puzzle`,
four `m-root`, `n` times `heights` with the same octets, `n` times
`codeword`, and one `poly`. The reference oracle accepts these objects and
no others. Lengths of 2^64 and more have no seed.
-/

namespace ProofLedger.Reference

/-! ## Tags -/

def puzzle : Name := ⟨"puzzle", by decide⟩

def merkleRoot : Name := ⟨"m-root", by decide⟩

def heights : Name := ⟨"heights", by decide⟩

def codeword : Name := ⟨"codeword", by decide⟩

def poly : Name := ⟨"poly", by decide⟩

/-- How many roots a proof has. -/
def rootCount : Nat := 4

/-! ## Preimages -/

/-- The octets of some words. -/
def wordOctets (ws : Words) : Bytes := ws.values.flatMap Sha256.octets64

/-- What the seed of an input is the digest of. -/
def seedPreimage (i : ProveInput) : Bytes :=
  Sha256.octets64 i.length ++ wordOctets i.blockCommitment ++ wordOctets i.nonce

/-- What the object of a tag and a number is the digest of. -/
def blobPreimage (seed : Bytes) (tag : Name) (index : Nat) : Bytes :=
  seed ++ Text.Utf8.encode tag.val ++ Sha256.octets64 index

/-- The octets that all `heights` of an input share: four powers of two, and the
length. -/
def heightOctets (i : ProveInput) : Bytes :=
  [2, 4, 8, 16, i.length].flatMap Sha256.octets64

/-! ## Objects -/

/-- An object with the given octets. -/
def object (tag : Name) (octets : Bytes) : ProofObject :=
  ⟨tag, ⟨Text.Hex.encode octets, isHexField_encode octets⟩⟩

/-- The object of a tag and a number. -/
def blob (seed : Bytes) (tag : Name) (index : Nat) : ProofObject :=
  object tag (Sha256.digest (blobPreimage seed tag index))

/-- The objects of an input under a seed, in order. -/
def layout (i : ProveInput) (seed : Bytes) : List ProofObject :=
  blob seed puzzle 0 :: ((List.range rootCount).map (blob seed merkleRoot) ++
    (List.replicate i.length (object heights (heightOctets i)) ++
      ((List.range i.length).map (blob seed codeword) ++ [blob seed poly 0])))

/-- The objects of an input, unless it is too long to have a seed. -/
def objects (i : ProveInput) : Except Failure (List ProofObject) :=
  if i.length < 2 ^ 64 then .ok (layout i (Sha256.digest (seedPreimage i)))
  else .error (.fault .lengthTooLarge)

/-! ## Checks -/

/-- The shape of a proof of length `n`. -/
def shape (n : Nat) : ProofShape where
  totalObjects := some (2 * n + rootCount + 2)
  requiredTags := [(puzzle.val, 1), (merkleRoot.val, (rootCount : Nat)), (heights.val, (n : Nat)),
    (poly.val, 1)]
  uniformTags := [heights.val]

/-- The shape from a length of unknown kind and the number of objects that goes
with it. -/
def shapeOfParts (length total : Data) : Except Failure ProofShape :=
  (ProofShape.build
    [(("total_objects" : Text), total),
      (("required_tags" : Text), .dict [(.text puzzle.val, .int 1),
        (.text merkleRoot.val, .int (rootCount : Nat)), (.text heights.val, length),
        (.text poly.val, .int 1)]),
      (("uniform_tags" : Text), .tuple [.text heights.val])]).mapError .refused

/-- The number of objects that goes with a length of unknown kind. -/
def totalOf : Data → Except Failure Data
  | .int n => .ok (.int (2 * n + (rootCount : Nat) + 2))
  | .bool b => .ok (.int (2 * Key.ofBool b + (rootCount : Nat) + 2))
  | .double d =>
    .ok (.double ((((Double.ofNat 2).mul d).add (Double.ofNat rootCount)).add (Double.ofNat 2)))
  | d =>
    .error (.fault (.foreign "TypeError" ("no number of objects for a length of kind " ++ d.kind)))

/-- The shape from a length of unknown kind. -/
def shapeOf (length : Data) : Except Failure ProofShape := do
  shapeOfParts length (← totalOf length)

/-- The hash of a proof. -/
def hash (i : ProveInput) (objects : List ProofObject) : Except Failure Text :=
  (hashProof i objects).mapError fun f => .fault (.canonical f)

/-- Both checks. -/
def checks : Prechecks := ⟨some fun n => .ok (shape n), some hash⟩

/-! ## Prover and oracle -/

/-- The objects of an input and their hash. -/
def proof (i : ProveInput) : Except Failure (List ProofObject × Text) := do
  let os ← objects i
  pure (os, ← hash i os)

def prove (i : ProveInput) : ProveAnswer :=
  match proof i with
  | .ok (os, h) => .proved (os.map .object) (.text h)
  | .error f => .raised f

/-- Whether objects are the ones of an input. -/
def accepts (i : ProveInput) (os : List ProofObject) : Except Failure Bool :=
  (objects i).map fun expected => decide (os = expected)

def judge (i : ProveInput) (os : List ProofObject) : JudgeAnswer :=
  match accepts i os with
  | .ok b => .judged (.bool b)
  | .error f => .raised f

def prover : Prover := ⟨fun _ => prove, checks⟩

def oracle : Oracle := ⟨fun _ => judge, checks⟩

end ProofLedger.Reference
