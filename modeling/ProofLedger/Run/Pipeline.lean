import ProofLedger.Capture
import ProofLedger.Run.Basic
import ProofLedger.Verification.Runner

/-!
# The pipeline

A pipeline takes an input through one run: the proof is captured into the
history, verified, and compared with the baseline. A run for the baseline
compares with the previous baseline, if there is one, and then moves the
pointer to its own record; but a proof with another hash does so only
when that was accepted beforehand. Whatever fails ends the run, and the
run says so.
-/

namespace ProofLedger

/-- A prover, an oracle, and the threshold of comparisons. -/
structure Pipeline where
  prover : Prover
  oracle : Oracle
  threshold : Threshold

namespace Pipeline

/-- A pipeline, when the threshold is positive. -/
def make (prover : Prover) (oracle : Oracle) (threshold : Threshold) : Except Failure Pipeline :=
  match threshold.isNotPositive, threshold.isShowable with
  | false, _ => .ok ⟨prover, oracle, threshold⟩
  | true, true => .error (.ledger (.config (.thresholdNotPositive threshold.shown)))
  | true, false => .error (.fault .longInteger)

/-- The early checks: those of the oracle, and those of the prover where the oracle
has none. -/
def checks (p : Pipeline) : Prechecks := p.oracle.checks.orElse p.prover.checks

/-! ## The stages of a run -/

/-- A part of a run: it may change the run and the world, and it may fail. -/
abbrev Stage (α : Type) := ExceptT Failure (StateT Run (StateM World)) α

namespace Stage

/-- A command as a part of a run. -/
def ofAct {α : Type} (a : Act α) : Stage α := fun r w =>
  let (result, w') := a w
  ((result, r), w')

/-- Moves the run on. -/
def advance (target : RunState) : Stage Unit := fun r w =>
  match r.advance target with
  | .ok (r', line) => ((.ok (), r'), { w with log := w.log ++ [line] })
  | .error f => ((.error f, r), w)

/-- Notes something in the run. -/
def note (change : Run → Run) : Stage Unit := fun r w => ((.ok (), change r), w)

end Stage

/-- The baseline as the reference of a comparison. -/
def reference (slot : Slot) : Act (Option ProofRecord) :=
  match slot with
  | .history => do pure (some (← Act.ask Directory.baseline))
  | .baseline => do
    match ← (Act.ask Directory.baseline).attempt with
    | .ok r => pure (some r)
    | .error (.ledger .noBaseline) | .error (.ledger .emptyHistory) => pure none
    | .error f => Act.raise f

/-- Captures the proof of an input. -/
def captureStage (p : Pipeline) (t : Instruments) (i : ProveInput) (label testName : Data) :
    Stage ProofRecord := do
  Stage.advance .capturing
  let record ← Stage.ofAct (Capture.capture t p.prover i label testName (.text Slot.history.text))
  Stage.note fun r => { r with record := some record }
  Stage.advance .persisted
  pure record

/-- Verifies a record; one that is not valid ends the run. -/
def verifyStage (p : Pipeline) (t : Instruments) (record : ProofRecord) : Stage Unit := do
  Stage.advance .verifying
  let result ← Stage.ofAct (Verification.verify t p.oracle p.checks record)
  Stage.note fun r => { r with verification := some result }
  if result.isValid then pure ()
  else Stage.ofAct (Act.raise (.ledger (.verification result)))

/-- The lines on a comparison. -/
def comparedText (reference record : ProofRecord) (verdict : Verdict) : Text :=
  reference.id.val ++ " vs " ++ record.id.val ++ ": " ++ verdict.text

/-- Compares a record with the reference, if there is one. -/
def compareStage (p : Pipeline) (reference : Option ProofRecord) (record : ProofRecord) :
    Stage (Option ComparisonReport) := do
  Stage.advance .comparing
  match reference with
  | none =>
    Stage.note fun r => { r with comparisonSkipped := true }
    Stage.ofAct (Act.report .info .pipeline
      ("no prior baseline; comparison skipped for " ++ record.id.val))
    pure none
  | some reference =>
    let report ← Stage.ofAct (Act.lift
      ((compare reference record p.threshold).mapError .ofThresholdFault))
    Stage.note fun r => { r with comparison := some report }
    Stage.ofAct (Act.report .info .pipeline (comparedText reference record report.verdict))
    pure (some report)

/-- What is said when a changed proof does not become the baseline. -/
def refusedText (record : ProofRecord) (baselineId : Text) : Text :=
  record.id.val ++ " produces a different proof than baseline " ++ baselineId ++
    "; baseline not moved"

/-- The report of a comparison that keeps a record from becoming the baseline. -/
def hindrance? (comparison : Option ComparisonReport) (accept : Bool) : Option ComparisonReport :=
  comparison.filter fun c => c.verdict == .hashMismatch && !accept

/-- Makes a record the baseline, unless its proof has changed and that was not
accepted. -/
def promoteStage (record : ProofRecord) (comparison : Option ComparisonReport) (accept : Bool) :
    Stage Unit :=
  match hindrance? comparison accept with
  | some c => Stage.ofAct (Act.report .warning .pipeline (refusedText record c.baselineId))
  | none => do
    let _ ← Stage.ofAct (Act.promote (.text record.id.val))
    Stage.note fun r => { r with baselinePromoted := true }

/-- All stages of a run. -/
def stages (p : Pipeline) (t : Instruments) (i : ProveInput) (label testName : Data) (slot : Slot)
    (accept : Bool) : Stage Unit := do
  let reference ← Stage.ofAct (reference slot)
  let record ← p.captureStage t i label testName
  p.verifyStage t record
  let comparison ← p.compareStage reference record
  match slot with
  | .history => pure ()
  | .baseline => promoteStage record comparison accept
  Stage.advance .done

/-! ## Running -/

/-- A run that is over, and the failure it ended with if it was aborted. -/
structure Outcome where
  run : Run
  raised : Option Failure
  deriving Repr

/-- Closes a run that a failure ends. -/
def close (f : Failure) (r : Run) : StateM World Outcome := fun w =>
  let (ended, lines, moved) := r.abort f
  (⟨ended, some (match moved with | .ok () => f | .error e => e)⟩, { w with log := w.log ++ lines })

/-- Captures, verifies and compares one proof. -/
def run (p : Pipeline) (t : Instruments) (i : ProveInput) (label testName : Data) (slot : Slot)
    (accept : Bool) : StateM World Outcome := fun w =>
  match p.stages t i label testName slot accept (Run.start slot) w with
  | ((.ok (), r), w') => (⟨r, none⟩, w')
  | ((.error f, r), w') => close f r w'

/-! ## Many runs -/

/-- What is said of a run of a batch that an error of the ledger ended. -/
def batchLine (i : ProveInput) (e : LedgerError) : LogLine :=
  ⟨.warning, .pipeline,
    "batch run for length=" ++ Text.ofNat i.length ++ " aborted: " ++ e.code.text⟩

/-- What an outcome means for a batch: errors of the ledger are noted, and any
other failure ends the batch. -/
def settle (i : ProveInput) (o : Outcome) : Act Unit :=
  match o.raised with
  | none => pure ()
  | some (.ledger e) => Act.reportAll [batchLine i e]
  | some f => Act.raise f

/-- One run after another. -/
def runEach (p : Pipeline) (t : Instruments) (label testName : Data) (slot : Slot) :
    List ProveInput → Act (List Run)
  | [] => pure []
  | i :: rest => do
    let o ← Act.always (p.run t i label testName slot false)
    settle i o
    let runs ← runEach p t label testName slot rest
    pure (o.run :: runs)

/-- What is said when runs of a batch were aborted. -/
def summaryLines (runs : List Run) : List LogLine :=
  let failed := runs.countP (!·.isDone)
  if failed = 0 then []
  else [⟨.warning, .pipeline,
    Text.ofNat failed ++ " of " ++ Text.ofNat runs.length ++ " batch runs aborted"⟩]

/-- Runs every input of a batch into a slot. -/
def runBatch (p : Pipeline) (t : Instruments) (label testName : Data) (slot : Slot)
    (inputs : List ProveInput) : Act (List Run) := do
  let runs ← p.runEach t label testName slot inputs
  Act.reportAll (summaryLines runs)
  pure runs

/-! ## Stored records -/

/-- Verifies a stored record. -/
def verifyRecord (p : Pipeline) (t : Instruments) (id : Data) : Act VerificationResult := do
  Verification.verify t p.oracle p.checks (← Act.ask (·.getNamed id))

/-- The record of a name; null and what is empty stand for a default. -/
def recordOr (id : Data) (default : Directory → Except Failure ProofRecord) : Act ProofRecord :=
  Act.ask fun d => if id.holds then d.getNamed id else default d

/-- Compares two stored records: without names, the baseline and the newest record
of the history. -/
def compareRecords (p : Pipeline) (baseline candidate : Data) : Act ComparisonReport := do
  let b ← recordOr baseline Directory.baseline
  let c ← recordOr candidate Directory.latestInHistory
  Act.lift ((compare b c p.threshold).mapError .ofThresholdFault)

end Pipeline

end ProofLedger
