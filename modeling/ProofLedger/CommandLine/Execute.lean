import ProofLedger.CommandLine.Request
import ProofLedger.Report
import ProofLedger.Workflow

/-!
# Carrying out a request

A request is carried out in a world that holds the store it is about. It
prints a report for machines and says something to people, perhaps writes
the report as files too, and ends with an exit status. Nought stands for
success, one for a failure or a finding, two for a request that could not
be understood or configured. `execute` ends with a status whatever the
command meets.
-/

namespace ProofLedger.CommandLine

/-- What is printed when the version is asked for. -/
def versionText : Text := "proofguard 1.0.0"

/-! ## The configuration -/

/-- An option that was not given is null. -/
def optional {α : Type} (toData : α → Data) (a : Option (Given α)) : Data :=
  (a.map (Given.toData toData)).getD .null

/-- The words of a digest as a value. -/
def wordsData (words : List Int) : Data := .tuple (words.map .int)

/-- The fields of the configuration that options set. -/
def overrides (o : Options) : Intake.Fields :=
  [(("store_root" : Text), optional .text o.store),
    (("threshold_percent" : Text), optional .double o.threshold),
    (("log_level" : Text), optional .text o.logLevel),
    (("fail_on_regression" : Text), if o.failOnRegression then .bool true else .null),
    (("length" : Text), optional .int o.length),
    (("block_commitment" : Text), optional wordsData o.blockCommitment),
    (("nonce" : Text), optional wordsData o.nonce),
    (("test_name" : Text), optional .text o.testName)]

/-- The fault of a path that was left blank. -/
def blankPath : Failure :=
  .fault (.foreign "TypeError" "expected str, bytes or os.PathLike object, not list")

/-- The configuration of a request. -/
def configure (s : Config.Surroundings) (o : Options) : Except Failure Config :=
  match o.config with
  | none => Config.load s none (overrides o)
  | some (.value path) => Config.load s (some path) (overrides o)
  | some .blank => .error blankPath

/-! ## Reporting -/

/-- What is said of an error of the ledger. -/
def errorLine (e : LedgerError) : Text := "Error: " ++ e.text

/-- A value on one line. -/
def lineOf (d : Data) : Except Failure Text :=
  match d.toJson with
  | .ok j => .ok (j.compact ++ [10])
  | .error f => .error (.fault (.unwritable f false))

/-- Where and how a command speaks: the directory that relative paths start at, and the
options of the request. -/
structure Manner where
  directory : Text
  options : Options

namespace Manner

/-- Says something to people, unless they want to hear nothing. -/
def say (m : Manner) (lines : List Text) : Act Unit :=
  if m.options.isQuiet then pure () else Act.say lines

/-- Writes a file of the report, and says so. -/
def write (m : Manner) (what path content : Text) : Act Unit := do
  Act.writeText path content
  m.say ["  " ++ what ++ ": " ++ path]

/-- The folder for the report, as a path from the root. -/
def folderOf (m : Manner) (path : Text) : Except Failure Text :=
  match Config.nameFault? path with
  | some f => .error f
  | none => .ok (Path.resolve m.directory path)

/-- Writes the report of a name into a folder, which is made if need be. -/
def writeAll (m : Manner) (path name json : Text) (markdown : Option Text) : Act Unit := do
  let folder ← Act.lift (m.folderOf path)
  Act.makeFolders folder
  m.write "JSON" (Path.join folder (name ++ ".json")) json
  match markdown with
  | none => pure ()
  | some page => m.write "Markdown" (Path.join folder (name ++ ".md")) page

/-- Prints the report of a command, and writes it as files where that is wanted. -/
def emit (m : Manner) (name : Text) (payload : Data) (markdown : Option Text) : Act Unit := do
  let json ← Act.lift (lineOf payload)
  Act.print json
  match m.options.outputDirectory with
  | none => pure ()
  | some .blank => Act.raise blankPath
  | some (.value path) => m.writeAll path name json markdown

end Manner

/-! ## Comparisons -/

/-- A change in percent in brackets, if there is one. -/
def percentNote : Option Double → Text
  | some p => " (" ++ Report.percent p ++ ")"
  | none => []

/-- The words on a comparison. -/
def comparisonLines (r : ComparisonReport) : List Text :=
  ["  Verdict: " ++ r.verdict.text,
    "  Hashes equal: " ++ Report.yesNo r.hashesEqual,
    "  Duration: " ++ Report.seconds r.baselineDuration ++ " -> " ++
      Report.seconds r.candidateDuration ++ percentNote r.percent]

/-- The exit status that a comparison calls for. -/
def comparisonStatus (c : Config) (r : Option ComparisonReport) : Nat :=
  match r.map ComparisonReport.verdict with
  | some .hashMismatch => 1
  | some .regressed => if c.failOnRegression then 1 else 0
  | _ => 0

/-! ## Captures -/

/-- The words on whether a capture has done what it was for. -/
def captureLine (r : Run) : Text :=
  match r.slot, r.baselinePromoted with
  | .history, _ => "[OK] Candidate captured"
  | .baseline, true => "[OK] Baseline captured"
  | .baseline, false =>
    "[FAILED] Baseline not moved: proof hash changed (rerun with --accept-hash-change)"

/-- The words on a record. -/
def recordLines (r : ProofRecord) : List Text :=
  ["  Record: " ++ r.id.val, "  Proof hash: " ++ r.proofHash.val]

/-- The words on the comparison of a run. -/
def runComparisonLines (r : Run) : List Text :=
  if r.comparisonSkipped then ["  Comparison: skipped (no prior baseline)"]
  else (r.comparison.map comparisonLines).getD []

/-- The words on a run that came to its end. -/
def captureLines (r : Run) : List Text :=
  captureLine r :: ((r.record.map recordLines).getD [] ++ runComparisonLines r)

/-- The exit status of a run that came to its end. A changed proof that became the
baseline was accepted by whoever asked for it. -/
def captureStatus (c : Config) (r : Run) : Nat :=
  if r.slot = .baseline ∧ r.baselinePromoted ∧ !r.comparisonSkipped ∧
      r.comparison.map ComparisonReport.verdict = some .hashMismatch then 0
  else comparisonStatus c r.comparison

/-- Reports on a run. One that an error of the ledger ended is reported all the same. -/
def reportRun (m : Manner) (c : Config) (name : Text) (o : Pipeline.Outcome) : Act Nat := do
  let summary := Report.runSummary o.run.record o.run.verification o.run.comparison
  match o.raised with
  | none =>
    m.emit name o.run.toData (some summary)
    m.say (captureLines o.run)
    pure (captureStatus c o.run)
  | some (.ledger f) =>
    m.emit name o.run.toData (some summary)
    Act.say [errorLine f]
    pure 1
  | some f => Act.raise f

def capture (t : Instruments) (m : Manner) (c : Config) (name : Text) (slot : Slot)
    (label : Given Text) (accept : Bool) : Act Nat := do
  reportRun m c name
    (← Workflow.run t c none (label.toData .text) (.text c.testName) slot accept)

/-! ## The other commands -/

/-- The words on what is wrong with a record, if anything is. -/
def detailLines : Option ErrorDetail → List Text
  | some d => ["  Error: [" ++ d.code ++ "] " ++ d.message]
  | none => []

/-- The words on a verification. -/
def verificationLines (r : VerificationResult) : List Text :=
  (if r.isValid then "[OK] Verification complete" else "[FAILED] Verification complete") ::
    ("  Record: " ++ r.recordId) :: ("  Method: " ++ r.method) :: detailLines r.errorDetail

def verify (t : Instruments) (m : Manner) (c : Config) (id : Text) : Act Nat := do
  let r ← Workflow.verify t c (.text id)
  m.emit "verify" r.toData (some (Report.verification r))
  m.say (verificationLines r)
  pure (if r.isValid then 0 else 1)

/-- The words on a comparison of stored records. -/
def compareLines (r : ComparisonReport) : List Text :=
  "[OK] Comparison complete" :: ("  Baseline: " ++ r.baselineId) ::
    ("  Candidate: " ++ r.candidateId) :: comparisonLines r

/-- A name that may be left out. -/
def nameOrNull (id : Option Text) : Data := (id.map Data.text).getD .null

def compare (m : Manner) (c : Config) (baseline candidate : Option Text) : Act Nat := do
  let r ← Workflow.compare c (nameOrNull baseline) (nameOrNull candidate)
  m.emit "compare" r.toData (some (Report.comparison r))
  m.say (compareLines r)
  pure (comparisonStatus c (some r))

def listSlot (m : Manner) (slot : Slot) : Act Nat := do
  let ids ← Act.ask (·.list slot)
  m.emit "list"
    (.dict [(("slot" : Text), .text slot.text), (("record_ids" : Text), .list ids)]) none
  m.say ["[OK] " ++ Text.ofNat ids.length ++ " record(s) in " ++ slot.text]
  pure 0

def list (m : Manner) (slot : Given Slot) : Act Nat := do
  Act.openStore
  listSlot m (← Act.lift (Slot.parse (slot.toData fun s => .text s.text)))

def showRecord (m : Manner) (id : Text) : Act Nat := do
  Act.openStore
  let r ← Act.ask (·.get id)
  m.emit "show" r.document (some (Report.record r))
  pure 0

def promote (m : Manner) (id : Text) : Act Nat := do
  Act.openStore
  let r ← Act.promote (.text id)
  m.emit "promote"
    (.dict [(("baseline" : Text), .text r.id.val), (("proof_hash" : Text), .text r.proofHash.val)])
    none
  m.say ["[OK] Baseline is now " ++ r.id.val]
  pure 0

/-- The microseconds of some days. -/
def ageOf (days : Given Double) : Except Failure Int :=
  (Calendar.span (days.toData .double) (.int 0) (.int 0)).mapError fun f => .fault (.span f)

def prune (t : Instruments) (m : Manner) (days : Given Double) (keepBaseline : Bool) : Act Nat := do
  Act.openStore
  let deleted ← Act.prune t (← Act.lift (ageOf days)) keepBaseline
  m.emit "prune" (.dict [(("deleted" : Text), .list (deleted.map .text))]) none
  m.say ["[OK] Pruned " ++ Text.ofNat deleted.length ++ " record(s)"]
  pure 0

/-! ## All commands -/

/-- What a command does. -/
def perform (t : Instruments) (m : Manner) (c : Config) (command : Command) : Act Nat :=
  match command with
  | .captureBaseline label accept => capture t m c command.name .baseline label accept
  | .captureCandidate label => capture t m c command.name .history label false
  | .verify id => verify t m c id
  | .compare baseline candidate => compare m c baseline candidate
  | .list slot => list m slot
  | .showRecord id => showRecord m id
  | .promote id => promote m id
  | .prune days keepBaseline => prune t m days keepBaseline

/-- Whether a command gets as far as its store. -/
def needsStore (c : Config) : Command → Bool
  | .list _ | .showRecord _ | .promote _ | .prune .. => true
  | _ => (Workflow.makes c).isOk

/-- What is said of any other failure. -/
def unexpectedLine (f : Failure) : Text := "Unexpected error: " ++ f.text

/-- The end of a command that failed. -/
def apologize (f : Failure) : Act Nat :=
  match f with
  | .ledger e => do
    Act.print (← Act.lift (lineOf e.toData))
    Act.say [errorLine e]
    pure 1
  | .mute _ asked => Act.raise asked
  | f => do
    Act.say [unexpectedLine f]
    pure 1

/-- Carries out a command; there is a failure only when an error has a report that
cannot be printed, or no text. -/
def execute (t : Instruments) (m : Manner) (c : Config) (command : Command) : Act Nat := do
  match ← (perform t m c command).attempt with
  | .ok status => pure status
  | .error f => apologize f

/-- The exit status of a request that cannot be understood or configured. -/
def usageStatus : Nat := 2

/-- What is said when there is no configuration for a request, and the exit status. -/
def decline (f : Failure) : Text × Nat :=
  match f with
  | .ledger e => (errorLine e, usageStatus)
  | f => (unexpectedLine f, 1)

/-- The log lines that are shown at a level. -/
def shownLog (level : Text) (log : List LogLine) : Text :=
  (log.filter fun l => LogLevel.thresholdRank level ≤ l.level.rank).flatMap fun l => l.text ++ [10]

end ProofLedger.CommandLine
