import ProofLedger.Comparison
import ProofLedger.Verification.Result

/-!
# Reports for readers

Records, results and comparisons as short sections of Markdown, and the
summary of a run, which joins the sections of whatever the run has got
to.
-/

namespace ProofLedger.Report

/-- Lines with a line feed after each. -/
def page (lines : List Text) : Text := Text.join [10] lines ++ [10]

/-- The first line of a section and an empty line. -/
def heading (t : Text) : Text := t ++ [10]

/-- Text between backticks. -/
def code (t : Text) : Text := 96 :: (t ++ [96])

/-- A length of time. -/
def seconds (d : Double) : Text := d.fixed 3 false ++ [115]

/-- A change of time, with its sign. -/
def signedSeconds (d : Double) : Text := d.fixed 3 true ++ [115]

/-- A change in percent. -/
def percent (p : Double) : Text := p.fixed 2 true ++ [37]

/-- A change in percent, if there is one. -/
def percentOr : Option Double → Text
  | some p => percent p
  | none => "n/a (baseline duration is 0)"

def yesNo (b : Bool) : Text := if b then "yes" else "no"

/-- The line on the test of a record, when it has a name. -/
def testLine (name : Text) : List Text :=
  if name.isEmpty then [] else ["- Test: " ++ code name]

def inputLine (i : ProveInput) : Text :=
  "- Input: length=" ++ Text.ofNat i.length ++ ", block_commitment=" ++ i.blockCommitment.display ++
    ", nonce=" ++ i.nonce.display

/-- The section on a record. -/
def record (r : ProofRecord) : Text :=
  page (heading ("## Record " ++ code r.id.val) :: ("- Source: " ++ code r.sourceLabel) ::
    (testLine r.testName ++
      ["- Timestamp: " ++ r.timestamp.text,
        inputLine r.input,
        "- Proof objects: " ++ Text.ofNat r.objects.length,
        "- Proof hash: " ++ code r.proofHash.val,
        "- Duration: " ++ seconds r.duration.val]))

/-- The line on what is wrong, when something is. -/
def faultLine : Option ErrorDetail → List Text
  | some d => ["- Error: [" ++ d.code ++ "] " ++ d.message]
  | none => []

def statusText (isValid : Bool) : Text := if isValid then "VALID" else "INVALID"

/-- The section on a verification. -/
def verification (r : VerificationResult) : Text :=
  page (heading ("## Verification of " ++ code r.recordId ++ ": " ++ statusText r.isValid) ::
    ("- Method: " ++ r.method) ::
    ("- Proof objects: " ++ Text.ofInt r.objectCount) ::
    ("- Proof hash: " ++ code r.proofHash) ::
    ("- Duration: " ++ seconds r.duration) :: faultLine r.errorDetail)

/-- A verdict as a sentence. -/
def verdictLine : Verdict → Text
  | .improved => "Candidate is faster than the baseline."
  | .regressed => "Candidate is slower than the baseline."
  | .unchanged => "Timing is within the noise threshold."
  | .hashMismatch => "Proof hashes differ: the candidate produced a different proof."

/-- A row of the table: a name, and a cell for either record. -/
def row (name a b : Text) : Text := "| " ++ name ++ " | " ++ a ++ " | " ++ b ++ " |"

/-- The section on a comparison. -/
def comparison (r : ComparisonReport) : Text :=
  page
    [heading ("## Comparison: " ++ r.verdict.text),
      verdictLine r.verdict,
      [],
      "| | Baseline | Candidate |",
      "|---|---|---|",
      row "Record" (code r.baselineId) (code r.candidateId),
      row "Proof hash" (code r.baselineHash) (code r.candidateHash),
      row "Duration" (seconds r.baselineDuration) (seconds r.candidateDuration),
      [],
      "- Hashes equal: " ++ yesNo r.hashesEqual,
      "- Duration delta: " ++ signedSeconds r.delta,
      "- Relative change: " ++ percentOr r.percent,
      "- Threshold: " ++ r.threshold.plain ++ "%"]

/-- The section that stands in for a comparison when there was nothing to compare
with. -/
def skippedComparison : Text :=
  "## Comparison: skipped\n\nNo prior baseline to compare against.\n"

/-- The section on a comparison, or the one in its place; before verification
there is neither. -/
def comparisonPart (r : Option ProofRecord) (v : Option VerificationResult)
    (c : Option ComparisonReport) : List Text :=
  match c with
  | some c => [comparison c]
  | none => if r.isSome && v.isSome then [skippedComparison] else []

/-- The summary of a run. -/
def runSummary (r : Option ProofRecord) (v : Option VerificationResult)
    (c : Option ComparisonReport) : Text :=
  Text.join [10] ((("# Proof regression report\n" : Text) :: (r.map record).toList) ++
    ((v.map verification).toList ++ comparisonPart r v c))

end ProofLedger.Report
