import ProofLedger.Calendar.Reader
import ProofLedger.Record.Input
import ProofLedger.Record.Object

/-!
# Proof records

A record is the evidence of one run of a prover: what was proved, the
objects and the digest that came out, how long it took, when and under
which label. Its invariants are in its type, so whoever holds a record
holds a valid one; `ProofRecord.ofFields` is the door.
-/

namespace ProofLedger

/-- The text of a moment whose distance from UTC is known, with that moment. -/
structure Timestamp where
  text : Text
  moment : Moment
  parsed : Moment.parse? text = some moment
  aware : moment.isAware = true
  deriving DecidableEq, Repr

namespace Timestamp

def unreadableMessage (t : Text) : Text := "timestamp must be ISO 8601 format, got '" ++ t ++ "'"

def unawareMessage (t : Text) : Text := "timestamp must carry a UTC offset, got '" ++ t ++ "'"

/-- Text that spells a moment with a distance from UTC. -/
def check (d : Data) : Checked Timestamp := do
  let t ← Intake.text d
  match h : Moment.parse? t with
  | none => .fail (.rule (unreadableMessage t)) d
  | some m =>
    if a : m.isAware = true then .ok ⟨t, m, h, a⟩
    else .fail (.rule (unawareMessage t)) d

end Timestamp

/-- A length of time in seconds: not negative, and a number. -/
abbrev Duration := { d : Double // Double.zero.le d = true }

/-- The evidence of one run of a prover. -/
structure ProofRecord where
  id : Name
  input : ProveInput
  objects : List ProofObject
  proofHash : Name
  duration : Duration
  timestamp : Timestamp
  sourceLabel : Text
  testName : Text
  deriving DecidableEq, Repr

namespace ProofRecord

/-- When the record was made. -/
def createdAt (r : ProofRecord) : Moment := r.timestamp.moment

/-- The names of the fields, in order. -/
def fieldNames : List Text :=
  ["record_id", "input", "proof_objects", "proof_hash", "duration_secs", "timestamp",
    "source_label", "test_name"]

/-- Checks every field; the input and the objects come checked. -/
def assemble (fields : Intake.Fields) (input : Checked ProveInput)
    (objects : Checked (List ProofObject)) : Checked ProofRecord :=
  let heads := ((Intake.required fields "record_id" Intake.name).both input).both objects
  let middle := ((Intake.required fields "proof_hash" Intake.name).both
    (Intake.required fields "duration_secs" Intake.nonNegative)).both
    (Intake.required fields "timestamp" Timestamp.check)
  let tails := (Intake.required fields "source_label" Intake.text).both
    (Intake.optional fields "test_name" [] Intake.text)
  (Intake.closed fields fieldNames ((heads.both middle).both tails)).map fun p =>
    { id := p.1.1.1.1, input := p.1.1.1.2, objects := p.1.1.2
      proofHash := p.1.2.1.1, duration := p.1.2.1.2, timestamp := p.1.2.2
      sourceLabel := p.2.1, testName := p.2.2 }

/-- A record from fields of unknown kind. -/
def ofFields (fields : Intake.Fields) : Checked ProofRecord :=
  assemble fields (Intake.required fields "input" ProveInput.check)
    (Intake.required fields "proof_objects" (Intake.sequence .notTuple ProofObject.check))

def modelName : Text := "ProofRecord"

/-- A record from fields given one by one. -/
def build (fields : Intake.Fields) : Except Refusal ProofRecord :=
  (ofFields fields).mapError (⟨modelName, ·⟩)

/-- A record from a checked input, checked objects, and the other fields. -/
def buildWith (input : ProveInput) (objects : List ProofObject) (fields : Intake.Fields) :
    Except Refusal ProofRecord :=
  (assemble fields (.ok input) (.ok objects)).mapError (⟨modelName, ·⟩)

/-- The fields as entries. -/
def toFields (r : ProofRecord) : Intake.Fields :=
  [(("record_id" : Text), .text r.id.val), (("input" : Text), r.input.toData),
    (("proof_objects" : Text), .list (r.objects.map ProofObject.toData)),
    (("proof_hash" : Text), .text r.proofHash.val),
    (("duration_secs" : Text), .double r.duration.val),
    (("timestamp" : Text), .text r.timestamp.text),
    (("source_label" : Text), .text r.sourceLabel),
    (("test_name" : Text), .text r.testName)]

def toData (r : ProofRecord) : Data := .dict r.toFields

end ProofRecord

end ProofLedger
