import ProofLedger.Number.Quantity
import ProofLedger.Number.Reading
import ProofLedger.Record.Basic

/-!
# Comparing records

A candidate is compared with a baseline: first the hashes, then the
durations. A change of the hash decides alone; otherwise the relative
change of the duration is measured against a threshold in percent.
-/

namespace ProofLedger

/-- The outcome of a comparison. -/
inductive Verdict where
  | improved
  | regressed
  | unchanged
  | hashMismatch
  deriving DecidableEq, Repr

def Verdict.text : Verdict → Text
  | .improved => "IMPROVED"
  | .regressed => "REGRESSED"
  | .unchanged => "UNCHANGED"
  | .hashMismatch => "HASH_MISMATCH"

/-- The verdict of a relative change: below the threshold in either direction
nothing has changed; a decrease by the threshold or more is an improvement. -/
def classify (percent threshold : Quantity) : Verdict :=
  if percent.abs.lt threshold then .unchanged
  else if percent.le threshold.neg then .improved
  else .regressed

/-- A comparison of two records; the change is candidate less baseline. -/
structure ComparisonReport where
  baselineId : Text
  candidateId : Text
  hashesEqual : Bool
  baselineHash : Text
  candidateHash : Text
  baselineDuration : Double
  candidateDuration : Double
  delta : Double
  /-- The change in percent of the baseline's duration; `none` when that is zero
  and the change is not. -/
  percent : Option Double
  threshold : Double
  verdict : Verdict
  deriving DecidableEq, Repr

namespace ComparisonReport

/-- A double, or null. -/
def optionalDouble (d : Option Double) : Data := (d.map Data.double).getD .null

def toData (r : ComparisonReport) : Data :=
  .dict [(("baseline_record_id" : Text), .text r.baselineId),
    (("candidate_record_id" : Text), .text r.candidateId),
    (("hashes_equal" : Text), .bool r.hashesEqual),
    (("baseline_proof_hash" : Text), .text r.baselineHash),
    (("candidate_proof_hash" : Text), .text r.candidateHash),
    (("baseline_duration_secs" : Text), .double r.baselineDuration),
    (("candidate_duration_secs" : Text), .double r.candidateDuration),
    (("duration_delta_secs" : Text), .double r.delta),
    (("duration_delta_percent" : Text), optionalDouble r.percent),
    (("threshold_percent" : Text), .double r.threshold),
    (("verdict" : Text), .text r.verdict.text)]

/-- The verdict, whether the hashes are equal, and the relative change. -/
def summary (r : ComparisonReport) : Data :=
  .dict [(("verdict" : Text), .text r.verdict.text), (("hashes_equal" : Text), .bool r.hashesEqual),
    (("duration_delta_percent" : Text), optionalDouble r.percent)]

end ComparisonReport

/-- A threshold with the text that it was given as: a whole number is shown without a
point. -/
structure Threshold where
  value : Quantity
  shown : Text
  deriving DecidableEq, Repr

namespace Threshold

/-- A threshold that is a double. -/
def ofDouble (d : Double) : Threshold := ⟨.double d, d.plain⟩

/-- A threshold from a value of unknown kind: truth values count as numbers. -/
def ofData? (d : Data) : Option Threshold :=
  match d with
  | .int n => some ⟨.whole n, d.display⟩
  | .bool b => some ⟨.whole (Key.ofBool b), d.display⟩
  | .double x => some ⟨.double x, d.display⟩
  | _ => none

/-- Whether the threshold is zero or less. -/
def isNotPositive (t : Threshold) : Bool := t.value.le .zero

/-- Whether the threshold can be shown at all. -/
def isShowable (t : Threshold) : Bool :=
  match t.value with
  | .whole n => Number.fits n
  | .double _ => true

/-- The threshold to use when none is given. -/
def default : Threshold := .ofDouble .one

end Threshold

/-- Why a threshold is of no use. -/
inductive ThresholdFault where
  | notPositive (threshold : Threshold)
  /-- A whole number past the greatest double. -/
  | tooLarge (n : Int)
  deriving DecidableEq, Repr

namespace ThresholdFault

/-- The fault as an issue of the report that cannot be made. -/
def refusal (n : Int) : Refusal :=
  ⟨"ComparisonReport", [⟨[.name "threshold_percent"], .notDouble, .int n⟩]⟩

end ThresholdFault

/-- The threshold, when it is positive and no whole number past the greatest double. -/
def Threshold.check (t : Threshold) : Except ThresholdFault Quantity :=
  if t.isNotPositive then .error (.notPositive t)
  else match t.value with
    | .whole n =>
      if (Double.ofInt n).isFinite then .ok (.whole n) else .error (.tooLarge n)
    | q => .ok q

/-- The change in percent of a baseline duration. -/
def relativeChange (baseline delta : Double) : Option Double :=
  if Double.zero.lt baseline then some ((delta.div baseline).mul (Double.ofNat 100))
  else if delta.eq .zero then some .zero
  else none

/-- The verdict on two hashes and a relative change; a change from a duration of
zero counts as a regression. -/
def verdictOf (hashesEqual : Bool) (percent : Option Double) (threshold : Quantity) : Verdict :=
  if !hashesEqual then .hashMismatch
  else match percent with
    | none => .regressed
    | some p => classify (.double p) threshold

/-- The report on a candidate and a baseline under a threshold that is in order. -/
def ComparisonReport.of (baseline candidate : ProofRecord) (threshold : Quantity) :
    ComparisonReport :=
  let hashesEqual := baseline.proofHash.val == candidate.proofHash.val
  let delta := candidate.duration.val.sub baseline.duration.val
  let percent := relativeChange baseline.duration.val delta
  { baselineId := baseline.id.val
    candidateId := candidate.id.val
    hashesEqual
    baselineHash := baseline.proofHash.val
    candidateHash := candidate.proofHash.val
    baselineDuration := baseline.duration.val
    candidateDuration := candidate.duration.val
    delta
    percent
    threshold := threshold.toDouble
    verdict := verdictOf hashesEqual percent threshold }

/-- Compares a candidate with a baseline. -/
def compare (baseline candidate : ProofRecord) (threshold : Threshold) :
    Except ThresholdFault ComparisonReport :=
  threshold.check.map (.of baseline candidate)

end ProofLedger
