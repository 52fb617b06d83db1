import ProofLedger.Config.Sources
import ProofLedger.Run.Pipeline

/-!
# Workflows

What a caller with a configuration can ask for: a capture for the
baseline or for the history, the verification of a stored record, the
comparison of two stored records, and of two documents outside any store.
Each loads the prover and the oracle that the configuration names; one
that cannot be loaded ends the workflow before anything else is looked at.
-/

namespace ProofLedger

namespace Workflow

/-- The prover and the oracle that a configuration names. -/
def makes (c : Config) : Except Failure (Make × Make) := do
  let prover ← Factory.load c.engine
  pure (prover, ← Factory.load c.oracle)

/-- The pipeline that a configuration describes. Its store is opened once there are a
prover and an oracle. -/
def pipeline (c : Config) : Act Pipeline := do
  let (prover, oracle) ← Act.lift (makes c)
  Act.openStore
  Act.lift (Pipeline.make prover.prover oracle.oracle (.ofDouble c.threshold))

/-- The input given, or the one of the configuration. -/
def inputOr (c : Config) (i : Option ProveInput) : Except Failure ProveInput :=
  match i with
  | some i => .ok i
  | none => c.proveInput.mapError .refused

/-- One run in a slot, also when a failure ends it. -/
def run (t : Instruments) (c : Config) (i : Option ProveInput) (label testName : Data)
    (slot : Slot) (accept : Bool) : Act Pipeline.Outcome := do
  let p ← pipeline c
  let i ← Act.lift (inputOr c i)
  Act.always (p.run t i label testName slot accept)

/-- One run in a slot, when it comes to its end. -/
def capture (t : Instruments) (c : Config) (i : Option ProveInput) (label testName : Data)
    (slot : Slot) (accept : Bool) : Act Run := do
  let o ← run t c i label testName slot accept
  match o.raised with
  | none => pure o.run
  | some f => Act.raise f

/-- Verifies a stored record. -/
def verify (t : Instruments) (c : Config) (id : Data) : Act VerificationResult := do
  (← pipeline c).verifyRecord t id

/-- Compares two stored records: without names, the baseline and the newest record of
the history. -/
def compare (c : Config) (baseline candidate : Data) : Act ComparisonReport := do
  (← pipeline c).compareRecords baseline candidate

/-! ## Documents outside a store -/

/-- The record in a file, with room for it however it is nested. -/
def loadFile (d : Disk) (path : Text) : Except Failure ProofRecord := do
  let content ← (d.read path).mapError fun why => .fault (.disk why path)
  (ProofRecord.loadsBytes content).mapError .ofLoadFault

/-- Compares the records in two files. -/
def compareFiles (d : Disk) (baseline candidate : Text) (threshold : Data) :
    Except Failure ComparisonReport := do
  let b ← loadFile d baseline
  let c ← loadFile d candidate
  (ProofLedger.compare b c (← Failure.thresholdOf threshold)).mapError .ofThresholdFault

end Workflow

end ProofLedger
