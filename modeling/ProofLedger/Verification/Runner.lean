import ProofLedger.World

/-!
# Verifying a record

A record is verified in the order of what the checks cost: first the
shape of its objects, then their hash, and only when both are in order
the oracle. A record that fails an early check never reaches the oracle.
An oracle that comes to no judgment ends the command; everything else is
a result.
-/

namespace ProofLedger.Verification

/-- Makes sure that objects fit a shape. -/
def fit (s : ProofShape) (objects : List ProofObject) : Except Failure Unit :=
  (s.check objects).mapError .ofShapeMismatch

/-- The shape check, when there is one. -/
def checkShape (checks : Prechecks) (r : ProofRecord) : Except Failure Unit :=
  match checks.shape? with
  | none => .ok ()
  | some expected => do fit (← expected r.input.length) r.objects

/-- The hash check, when there is one. -/
def checkHash (checks : Prechecks) (r : ProofRecord) : Except Failure Unit :=
  match checks.hash? with
  | none => .ok ()
  | some hash => do
    let recomputed ← hash r.input r.objects
    if recomputed = r.proofHash.val then .ok ()
    else .error (.ledger (.mismatch (.hash recomputed r.proofHash.val)))

/-- The shape check and then the hash check. -/
def precheck (checks : Prechecks) (r : ProofRecord) : Except Failure Unit := do
  checkShape checks r
  checkHash checks r

/-- What the early checks find wrong with a record, unless they fail themselves. -/
def findMismatch (checks : Prechecks) (r : ProofRecord) : Except Failure (Option Mismatch) :=
  match precheck checks r with
  | .ok () => .ok none
  | .error (.ledger (.mismatch m)) => .ok (some m)
  | .error f => .error f

/-- By what a result was found. -/
inductive Method where
  | precheck
  | oracle
  deriving DecidableEq, Repr

def Method.text : Method → Text
  | .precheck => "structural_precheck"
  | .oracle => "oracle"

/-- What is wrong with a record as the detail of a result. -/
def detail (m : Mismatch) : ErrorDetail := ⟨m.code.text, m.message⟩

/-- The detail of a rejection by the oracle. -/
def rejection : ErrorDetail :=
  ⟨ErrorCode.oracleRejected.text, "Verification oracle judged the proof invalid"⟩

/-- The result on a record, with the time that has passed. -/
def finish (t : Instruments) (r : ProofRecord) (started : Double) (method : Method)
    (fault : Option ErrorDetail) : Act VerificationResult := do
  let duration ← Act.elapsed t started
  let stamp ← Act.stamp (← Act.readClock t)
  pure
    { recordId := r.id.val
      isValid := fault.isNone
      duration
      errorDetail := fault
      objectCount := r.objects.length
      proofHash := r.proofHash.val
      method := method.text
      timestamp := stamp }

/-- Mentions that there is no shape check. -/
def noteSkipped (checks : Prechecks) : Act Unit :=
  if checks.shape?.isNone then
    Act.report .debug .verification "no shape provider configured; cardinality checks skipped"
  else pure ()

/-- The result on a record that failed an early check. -/
def failEarly (t : Instruments) (r : ProofRecord) (started : Double) (m : Mismatch) :
    Act VerificationResult := do
  Act.report .warning .verification
    ("record " ++ r.id.val ++ " failed structural pre-check: " ++ m.message)
  finish t r started .precheck (some (detail m))

/-- The result on a record from what the oracle answers. -/
def conclude (t : Instruments) (r : ProofRecord) (started : Double) :
    JudgeAnswer → Act VerificationResult
  | .failed diagnostic => Act.raise (.ledger (.oracleUnavailable r.id.val diagnostic))
  | .raised f => Act.raise f
  | .judged (.bool true) => do
    Act.report .info .verification ("record " ++ r.id.val ++ " verified valid")
    finish t r started .oracle none
  | .judged _ => do
    Act.report .warning .verification ("oracle rejected record " ++ r.id.val)
    finish t r started .oracle (some rejection)

/-- Verifies a record with an oracle and the checks that come before it. -/
def verify (t : Instruments) (oracle : Oracle) (checks : Prechecks) (r : ProofRecord) :
    Act VerificationResult := do
  let started ← Act.readTimer t
  noteSkipped checks
  match ← Act.lift (findMismatch checks r) with
  | some m => failEarly t r started m
  | none => conclude t r started (← Act.judge oracle r)

end ProofLedger.Verification
