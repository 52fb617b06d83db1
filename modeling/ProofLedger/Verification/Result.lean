import ProofLedger.Record.Basic

/-!
# Results of verification

What came out when a record was checked again: whether it is valid, by
which method that was found, and why not if it is not.
-/

namespace ProofLedger

/-- A code and a sentence on why a record is not valid. -/
structure ErrorDetail where
  code : Text
  message : Text
  deriving DecidableEq, Repr

/-- The outcome of checking a record. -/
structure VerificationResult where
  recordId : Text
  isValid : Bool
  duration : Double
  errorDetail : Option ErrorDetail
  objectCount : Int
  proofHash : Text
  method : Text
  timestamp : Text
  deriving DecidableEq, Repr

namespace ErrorDetail

/-- Checks the fields; others may stand beside them. -/
def ofFields (fields : Intake.Fields) : Checked ErrorDetail :=
  ((Intake.required fields "code" Intake.text).both
    (Intake.required fields "message" Intake.text)).map fun p => ⟨p.1, p.2⟩

/-- A detail from fields given one by one. -/
def build (fields : Intake.Fields) : Except Refusal ErrorDetail :=
  (ofFields fields).mapError (⟨"ErrorDetail", ·⟩)

/-- A detail, or null for none. -/
def check (d : Data) : Checked (Option ErrorDetail) :=
  match d with
  | .null => .ok none
  | d => (Intake.model "ErrorDetail" ofFields d).map some

def toData (e : ErrorDetail) : Data :=
  .dict [(("code" : Text), .text e.code), (("message" : Text), .text e.message)]

end ErrorDetail

namespace VerificationResult

/-- Checks every field; others may stand beside them. -/
def ofFields (fields : Intake.Fields) : Checked VerificationResult :=
  let heads := ((Intake.required fields "record_id" Intake.text).both
    (Intake.required fields "is_valid" Intake.bool)).both
    ((Intake.required fields "duration_secs" Intake.nonNegative).both
      (Intake.optional fields "error_detail" none ErrorDetail.check))
  let tails := ((Intake.required fields "proof_objects_count" Intake.int).both
    (Intake.required fields "original_proof_hash" Intake.text)).both
    ((Intake.required fields "verification_method" Intake.text).both
      (Intake.required fields "timestamp" Intake.text))
  (heads.both tails).map fun p =>
    { recordId := p.1.1.1, isValid := p.1.1.2
      duration := p.1.2.1.val, errorDetail := p.1.2.2
      objectCount := p.2.1.1, proofHash := p.2.1.2
      method := p.2.2.1, timestamp := p.2.2.2 }

def modelName : Text := "VerificationResult"

/-- A result from fields given one by one. -/
def build (fields : Intake.Fields) : Except Refusal VerificationResult :=
  (ofFields fields).mapError (⟨modelName, ·⟩)

def toData (r : VerificationResult) : Data :=
  .dict [(("record_id" : Text), .text r.recordId), (("is_valid" : Text), .bool r.isValid),
    (("duration_secs" : Text), .double r.duration),
    (("error_detail" : Text), (r.errorDetail.map ErrorDetail.toData).getD .null),
    (("proof_objects_count" : Text), .int r.objectCount),
    (("original_proof_hash" : Text), .text r.proofHash),
    (("verification_method" : Text), .text r.method), (("timestamp" : Text), .text r.timestamp)]

end VerificationResult

end ProofLedger
