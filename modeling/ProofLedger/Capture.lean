import ProofLedger.World

/-!
# Capturing a proof

A prover is asked once, its answer becomes a record, and the record is
stored. Proving may take hours, so a record that cannot be stored is not
lost: it goes into the log as a document, and along with the error.
-/

namespace ProofLedger.Capture

/-- The line written before a prover is asked. -/
def startLine (i : ProveInput) (label : Data) : LogLine :=
  ⟨.info, .capture, "proving length=" ++ Text.ofNat i.length ++ " commitment=" ++
    i.blockCommitment.display ++ " nonce=" ++ i.nonce.display ++ " label=" ++ label.shown⟩

/-- The error of a prover that has no proof. A length with too many digits cannot even be told. -/
def noProof (i : ProveInput) (diagnostic : Text) : Failure :=
  if Number.fits i.length then
    .ledger (.generation
      ("Proving engine failed for length=" ++ Text.ofNat i.length ++ ": " ++ diagnostic)
      diagnostic)
  else .fault .longInteger

/-- What a prover has for an input. -/
def proveWith (p : Prover) (i : ProveInput) : Act (List RawObject × Data) := do
  match ← Act.prove p i with
  | .proved objects hash => pure (objects, hash)
  | .failed diagnostic => Act.raise (noProof i diagnostic)
  | .raised f => Act.raise f

/-- The name of a record from a label of unknown kind. -/
def identify (label : Data) (created : Moment) : Except Failure Text :=
  match label with
  | .text t => (Identity.derive t created).mapError fun f => .fault (.time f)
  | d => .error (.fault (.textKind d.kind))

/-- The record of a proof: its name, then its objects, then its timestamp are
made, and then all fields are checked. -/
def makeRecord (i : ProveInput) (label testName : Data) (raw : List RawObject) (hash : Data)
    (duration : Double) (created : Moment) : Except Failure ProofRecord := do
  let id ← identify label created
  let objects ← raw.mapM RawObject.toObject
  let stamp ← created.format.mapError fun f => .fault (.time f)
  (ProofRecord.buildWith i objects
    [(("record_id" : Text), .text id), (("proof_hash" : Text), hash),
      (("duration_secs" : Text), .double duration), (("timestamp" : Text), .text stamp),
      (("source_label" : Text), label), (("test_name" : Text), testName)]).mapError .refused

/-- The line written when there is a record. -/
def doneLine (r : ProofRecord) : LogLine :=
  ⟨.info, .capture, "proof generated in " ++ r.duration.val.fixed 3 false ++ "s: " ++
    Text.ofNat r.objects.length ++ " objects, hash " ++ r.proofHash.val⟩

/-- The line that keeps a record which could not be stored. -/
def recoveryLine (r : ProofRecord) (reason document : Text) : LogLine :=
  ⟨.error, .capture, "proof " ++ r.id.val ++ " generated but not persisted (" ++ reason ++
    "); recovery payload follows\n" ++ document⟩

/-- Failures to store that leave the record in good order: errors of the ledger and
of the storage. -/
def isRecoverable : Failure → Bool
  | .ledger _ => true
  | .fault f => f.isSystem
  | .refused _ | .mute .. => false

/-- The code of an error of the ledger. -/
def codeOf : Failure → Option ErrorCode
  | .ledger e => some e.code
  | _ => none

/-- Hands a record that could not be stored to the log and to the caller. -/
def rescue (r : ProofRecord) (f : Failure) : Act Unit := do
  if isRecoverable f then
    let document ← Act.lift (Directory.document r)
    Act.reportAll [recoveryLine r f.text document]
    Act.raise (.ledger (.persist r f.text (codeOf f)))
  else Act.raise f

/-- Stores a record, or rescues it. -/
def keep (r : ProofRecord) (slot : Data) : Act Unit := do
  match ← (Act.put r slot).attempt with
  | .ok () => pure ()
  | .error f => rescue r f

/-- Asks a prover and makes a record of its answer. -/
def record (t : Instruments) (p : Prover) (i : ProveInput) (label testName : Data) :
    Act ProofRecord := do
  Act.reportAll [startLine i label]
  let started ← Act.readTimer t
  let (raw, hash) ← proveWith p i
  let duration ← Act.elapsed t started
  let created ← Act.readClock t
  let r ← Act.lift (makeRecord i label testName raw hash duration created)
  Act.reportAll [doneLine r]
  pure r

/-- Proves an input once, stores the record, and returns it. -/
def capture (t : Instruments) (p : Prover) (i : ProveInput) (label testName slot : Data) :
    Act ProofRecord := do
  let r ← record t p i label testName
  keep r slot
  pure r

end ProofLedger.Capture
