import ProofLedger.Json.Encoding
import ProofLedger.Json.Printer
import ProofLedger.Record.Basic

/-!
# Record documents

A stored record is a JSON document with a format name, a version and the
fields of the record under their names on disk. Writing gives the same
octets for equal records. Reading checks the document first and the
record that it describes afterwards; `LoadFault` says which of the two,
or what before them, went wrong.
-/

namespace ProofLedger

/-- The input as a document holds it: three fields, not yet an input of a proof. -/
structure InputDocument where
  length : Nat
  blockCommitment : List Int
  nonce : List Int
  deriving DecidableEq, Repr

/-- An object as a document holds it. -/
structure ObjectDocument where
  tag : Text
  data : Text
  deriving DecidableEq, Repr

/-- A document that has the right form, of a record that is yet to be checked. -/
structure RecordDocument where
  id : Text
  input : InputDocument
  duration : Double
  proofHash : Text
  timestamp : Text
  testName : Text
  sourceBranch : Text
  proof : List ObjectDocument
  deriving DecidableEq, Repr

/-- The name and the version of the format. -/
def recordFormat : Text := "proofguard.record"

def recordVersion : Text := "1"

namespace InputDocument

def ofFields (fields : Intake.Fields) : Checked InputDocument :=
  (Intake.closed fields ProveInput.fieldNames
    (((Intake.required fields "length" Intake.nat).both
      (Intake.required fields "block_commitment" (Intake.sequence .notList Intake.int))).both
      (Intake.required fields "nonce" (Intake.sequence .notList Intake.int)))).map fun p =>
    ⟨p.1.1, p.1.2, p.2⟩

def check (d : Data) : Checked InputDocument := Intake.model "InputDocument" ofFields d

/-- The fields of the input of a proof. -/
def toFields (i : InputDocument) : Intake.Fields :=
  [(("length" : Text), .int i.length),
    (("block_commitment" : Text), .list (i.blockCommitment.map .int)),
    (("nonce" : Text), .list (i.nonce.map .int))]

end InputDocument

namespace ObjectDocument

def ofFields (fields : Intake.Fields) : Checked ObjectDocument :=
  (Intake.closed fields ProofObject.fieldNames
    ((Intake.required fields "type" Intake.text).both
      (Intake.required fields "data" Intake.text))).map fun p => ⟨p.1, p.2⟩

def check (d : Data) : Checked ObjectDocument := Intake.model "ProofObjectDocument" ofFields d

/-- The object that the document describes. -/
def toObject (o : ObjectDocument) : Except Refusal ProofObject :=
  ProofObject.build [(("type" : Text), .text o.tag), (("data" : Text), .text o.data)]

end ObjectDocument

namespace RecordDocument

/-- The names of the fields, in order. -/
def fieldNames : List Text :=
  ["format", "version", "record_id", "input", "duration_secs", "proof_hash", "timestamp",
    "test_name", "source_branch", "proof"]

/-- Checks every field. Format and version need not be given, but if they are
they must be the ones of this library. -/
def ofFields (fields : Intake.Fields) : Checked RecordDocument :=
  let heads := ((Intake.optional fields "format" recordFormat (Intake.literal recordFormat)).both
    (Intake.optional fields "version" recordVersion (Intake.literal recordVersion))).both
    ((Intake.required fields "record_id" Intake.text).both
      (Intake.required fields "input" InputDocument.check))
  let middle := ((Intake.required fields "duration_secs" Intake.double).both
    (Intake.required fields "proof_hash" Intake.text)).both
    ((Intake.required fields "timestamp" Intake.text).both
      (Intake.required fields "test_name" Intake.text))
  let tails := (Intake.required fields "source_branch" Intake.text).both
    (Intake.required fields "proof" (Intake.sequence .notList ObjectDocument.check))
  (Intake.closed fields fieldNames ((heads.both middle).both tails)).map fun p =>
    { id := p.1.1.2.1, input := p.1.1.2.2
      duration := p.1.2.1.1, proofHash := p.1.2.1.2
      timestamp := p.1.2.2.1, testName := p.1.2.2.2
      sourceBranch := p.2.1, proof := p.2.2 }

def modelName : Text := "RecordDocument"

/-- A document of the right form. -/
def check (d : Data) : Except Refusal RecordDocument :=
  (Intake.model modelName ofFields d).mapError (⟨modelName, ·⟩)

/-- The record that the document describes: its input is checked first, then its
objects one after another, then the rest. -/
def toRecord (doc : RecordDocument) : Except Refusal ProofRecord := do
  let input ← ProveInput.build doc.input.toFields
  let objects ← doc.proof.mapM ObjectDocument.toObject
  ProofRecord.buildWith input objects
    [(("record_id" : Text), .text doc.id), (("proof_hash" : Text), .text doc.proofHash),
      (("duration_secs" : Text), .double doc.duration),
      (("timestamp" : Text), .text doc.timestamp),
      (("source_label" : Text), .text doc.sourceBranch),
      (("test_name" : Text), .text doc.testName)]

end RecordDocument

/-- Why a text or a list of octets is no record. -/
inductive LoadFault where
  /-- The octets are no text. -/
  | undecodable
  /-- A numeral is too long to be read. -/
  | longInteger
  /-- The document is nested deeper than there is room for. -/
  | tooDeep
  | notJson (what : Json.Problem) (line column position : Nat)
  | notDict
  | malformed (refusal : Refusal)
  deriving Repr

def LoadFault.ofReadFault : Json.ReadFault → LoadFault
  | .problem what line column position => .notJson what line column position
  | .longInteger => .longInteger
  | .tooDeep => .tooDeep

namespace ProofRecord

/-- How many lists and dictionaries lie within one another in the document of a record: an object
lies in the list of them. -/
def depth : Nat := 3

/-- The record as a document. -/
def document (r : ProofRecord) : Data :=
  .dict [(("format" : Text), .text recordFormat), (("version" : Text), .text recordVersion),
    (("record_id" : Text), .text r.id.val), (("input" : Text), r.input.toData),
    (("duration_secs" : Text), .double r.duration.val),
    (("proof_hash" : Text), .text r.proofHash.val), (("timestamp" : Text), .text r.timestamp.text),
    (("test_name" : Text), .text r.testName),
    (("source_branch" : Text), .text r.sourceLabel),
    (("proof" : Text), .list (r.objects.map ProofObject.toData))]

/-- The record that a value describes. -/
def ofDocument (d : Data) : Except Refusal ProofRecord := do (← RecordDocument.check d).toRecord

/-- The text of a stored record. -/
def dumps (r : ProofRecord) : Except JsonFault Text := r.document.toJson.map Json.pretty

/-- The record in a JSON document. -/
def ofJson : Json → Except LoadFault ProofRecord
  | .dict es => (ofDocument (Json.dict es).toData).mapError .malformed
  | _ => .error .notDict

/-- The record in a text. -/
def loads (t : Text) (room : Json.Room := none) : Except LoadFault ProofRecord := do
  ofJson (← (Json.read t room).mapError .ofReadFault)

/-- The record in a list of octets. -/
def loadsBytes (bytes : Bytes) (room : Json.Room := none) : Except LoadFault ProofRecord :=
  match Json.readBytes bytes room with
  | .ok j => ofJson j
  | .error .undecodable => .error .undecodable
  | .error (.read f) => .error (.ofReadFault f)

end ProofRecord

/-- What a caller is told about a document that is refused. -/
def malformedMessage (r : Refusal) : Text :=
  "Malformed proof record document: " ++ Text.ofNat r.issues.length ++ " validation error(s): " ++
    r.message

end ProofLedger
