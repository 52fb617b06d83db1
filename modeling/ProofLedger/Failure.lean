import ProofLedger.Calendar.Span
import ProofLedger.Comparison
import ProofLedger.Config.Fault
import ProofLedger.Digest.Canonical
import ProofLedger.Disk.Fault
import ProofLedger.Record.Document
import ProofLedger.Shape
import ProofLedger.Verification.Result

/-!
# Failures

Everything that can end an operation, by cause. A `LedgerError` belongs
to the domain and carries a code that reports rely on; a `Refusal` lists
what is wrong with values handed in; a `Fault` is anything else, such as
a file that cannot be decoded or a number that does not fit. `Failure`
is one of the three. `label` is the kind of a failure in reports, `text`
what a log line shows of it.
-/

namespace ProofLedger

/-- The codes of errors of the domain. -/
inductive ErrorCode where
  | proofGenerationFailed
  | duplicateRecord
  | notFound
  | emptyStore
  | persistFailed
  | invalidRecord
  | cardinalityMismatch
  | missingSubstructure
  | inconsistentSubstructure
  | proofHashMismatch
  | oracleRejected
  | oracleUnavailable
  | verificationFailed
  | configInvalid
  | engineLoadFailed
  deriving DecidableEq, Repr

def ErrorCode.text : ErrorCode → Text
  | .proofGenerationFailed => "PROOF_GENERATION_FAILED"
  | .duplicateRecord => "DUPLICATE_RECORD"
  | .notFound => "NOT_FOUND"
  | .emptyStore => "EMPTY_STORE"
  | .persistFailed => "PERSIST_FAILED"
  | .invalidRecord => "INVALID_RECORD"
  | .cardinalityMismatch => "CARDINALITY_MISMATCH"
  | .missingSubstructure => "MISSING_SUBSTRUCTURE"
  | .inconsistentSubstructure => "INCONSISTENT_SUBSTRUCTURE"
  | .proofHashMismatch => "PROOF_HASH_MISMATCH"
  | .oracleRejected => "ORACLE_REJECTED"
  | .oracleUnavailable => "ORACLE_UNAVAILABLE"
  | .verificationFailed => "VERIFICATION_FAILED"
  | .configInvalid => "CONFIG_INVALID"
  | .engineLoadFailed => "ENGINE_LOAD_FAILED"

/-! ## Structural checks -/

/-- Why a record fails the checks that precede the oracle. -/
inductive Mismatch where
  | shape (m : ShapeMismatch)
  | hash (recomputed stored : Text)
  deriving DecidableEq, Repr

def Mismatch.code : Mismatch → ErrorCode
  | .shape (.cardinality ..) => .cardinalityMismatch
  | .shape (.tagCount ..) => .missingSubstructure
  | .shape (.inconsistent ..) => .inconsistentSubstructure
  | .hash .. => .proofHashMismatch

def Mismatch.message : Mismatch → Text
  | .shape m => m.message
  | .hash recomputed stored =>
    "Recomputed proof hash " ++ recomputed ++ " does not match stored " ++ stored

/-! ## Errors of the domain -/

/-- Why a record is not taken. -/
inductive Duplicate where
  | stored (id : Text)
  | baseline (id : Text)
  | different (id : Text)
  /-- Another writer of the store reports a conflict. -/
  | reported (message : Text)
  deriving DecidableEq, Repr

def Duplicate.message : Duplicate → Text
  | .stored id => "Record '" ++ id ++ "' already exists in history"
  | .baseline id => "Record '" ++ id ++ "' is already the baseline"
  | .different id => "A different record is already stored under id '" ++ id ++ "'"
  | .reported message => message

/-- An error with a code. -/
inductive LedgerError where
  | notJson (what : Json.Problem) (line column position : Nat)
  | notDict
  | malformed (refusal : Refusal)
  | generation (message diagnostic : Text)
  | duplicate (cause : Duplicate)
  | invalidId (id : Text)
  | absent (id : Text)
  | emptyHistory
  | noBaseline
  | mismatch (m : Mismatch)
  | oracleUnavailable (id diagnostic : Text)
  | persist (record : ProofRecord) (reason : Text) (code : Option ErrorCode)
  | verification (result : VerificationResult)
  | config (fault : ConfigFault)
  | engineLoad (fault : FactoryFault)
  deriving Repr

namespace LedgerError

def code : LedgerError → ErrorCode
  | .notJson .. | .notDict | .malformed _ => .invalidRecord
  | .generation .. => .proofGenerationFailed
  | .duplicate _ => .duplicateRecord
  | .invalidId _ | .absent _ => .notFound
  | .emptyHistory | .noBaseline => .emptyStore
  | .mismatch m => m.code
  | .oracleUnavailable .. => .oracleUnavailable
  | .persist .. => .persistFailed
  | .verification _ => .verificationFailed
  | .config _ => .configInvalid
  | .engineLoad _ => .engineLoadFailed

def label : LedgerError → Text
  | .notJson .. | .notDict | .malformed _ => "ProofGuardError"
  | .generation .. => "ProofGenerationError"
  | .duplicate _ => "DuplicateRecordError"
  | .invalidId _ | .absent _ => "NotFoundError"
  | .emptyHistory | .noBaseline => "EmptyStoreError"
  | .mismatch _ => "StructuralMismatchError"
  | .oracleUnavailable .. => "OracleUnavailableError"
  | .persist .. => "RecordPersistError"
  | .verification _ => "VerificationFailedError"
  | .config _ => "ConfigError"
  | .engineLoad _ => "EngineLoadError"

/-- The sentence on why a record was found invalid. -/
def verificationMessage (r : VerificationResult) : Text :=
  "Record '" ++ r.recordId ++ "' failed verification" ++
    match r.errorDetail with
    | some d => ": [" ++ d.code ++ "] " ++ d.message
    | none => []

def message : LedgerError → Text
  | .notJson what line column position =>
    "Proof record is not valid JSON: " ++ Json.placeMessage what line column position
  | .notDict => "Proof record must be a JSON object"
  | .malformed r => malformedMessage r
  | .generation message _ => message
  | .duplicate cause => cause.message
  | .invalidId id => "Invalid record id: " ++ id.quoted
  | .absent id => "No record with id '" ++ id ++ "'"
  | .emptyHistory => "History holds no records"
  | .noBaseline => "No baseline record has been set"
  | .mismatch m => m.message
  | .oracleUnavailable id diagnostic =>
    "Verification oracle could not complete for '" ++ id ++ "': " ++ diagnostic
  | .persist record reason _ =>
    "Generated proof '" ++ record.id.val ++ "' could not be persisted: " ++ reason
  | .verification r => verificationMessage r
  | .config f => f.message
  | .engineLoad f => f.message

/-- Code and message. -/
def text (e : LedgerError) : Text := "[" ++ e.code.text ++ "] " ++ e.message

/-- What some errors carry besides their message. -/
def extras : LedgerError → List (Key × Data)
  | .generation _ diagnostic => [(("diagnostic" : Text), .text diagnostic)]
  | .persist record _ code =>
    [(("cause_code" : Text), (code.map fun c => Data.text c.text).getD .null),
      (("record" : Text), record.document)]
  | .verification r => [(("verification" : Text), r.toData)]
  | _ => []

def toData (e : LedgerError) : Data :=
  .dict ((("error" : Text), .text e.label) :: (("code" : Text), .text e.code.text) ::
    (("message" : Text), .text e.message) :: e.extras)

/-- The issues behind the error, when values handed in are its cause. -/
def issues? : LedgerError → Option (List Issue)
  | .malformed r => some r.issues
  | .config (.invalid r) => some r.issues
  | _ => none

end LedgerError

/-! ## Faults -/

/-- Why an answer of an engine is no list of objects. -/
inductive ObjectFault where
  | byteRange
  | textPayload
  | negativeCount
  | hugeCount
  | hugePayload
  /-- There is no room for that many octets. -/
  | noRoom
  | noBytes (kind : Text)
  | tooFew (found : Nat)
  | tooMany
  | notIterable (kind : Text)
  | notInteger (kind : Text)
  /-- The answer itself has no items. -/
  | noItems (kind : Text)
  deriving DecidableEq, Repr

def ObjectFault.message : ObjectFault → Text
  | .byteRange => "bytes must be in range(0, 256)"
  | .textPayload => "string argument without an encoding"
  | .negativeCount => "negative count"
  | .hugeCount => "cannot fit 'int' into an index-sized integer"
  | .hugePayload => "byte string is too large"
  | .noRoom => []
  | .noBytes kind => "cannot convert '" ++ kind ++ "' object to bytes"
  | .tooFew found => "not enough values to unpack (expected 2, got " ++ Text.ofNat found ++ ")"
  | .tooMany => "too many values to unpack (expected 2)"
  | .notIterable kind => "cannot unpack non-iterable " ++ kind ++ " object"
  | .notInteger kind => "'" ++ kind ++ "' object cannot be interpreted as an integer"
  | .noItems kind => "'" ++ kind ++ "' object is not iterable"

def ObjectFault.label : ObjectFault → Text
  | .byteRange | .negativeCount | .tooFew _ | .tooMany => "ValueError"
  | .hugeCount | .hugePayload => "OverflowError"
  | .noRoom => "MemoryError"
  | _ => "TypeError"

/-- What ends an operation without being an error of the domain. -/
inductive Fault where
  /-- A value, as it is displayed, that names no slot. -/
  | unknownSlot (shown : Text)
  /-- A value that cannot be written; the flag tells whether the layout in lines
  was asked for, whose message names the double. -/
  | unwritable (fault : JsonFault) (pretty : Bool)
  | longInteger
  /-- A document is nested deeper than there is room for. What the message says of the place
  is left out. -/
  | tooDeep
  | undecodable (fault : Text.Utf8.Fault)
  | undecodableDocument
  | unencodable (points : Text.Unencodable)
  | notJson (what : Json.Problem) (line column position : Nat)
  | pointerWithoutId
  | pointerKind (kind : Text)
  /-- A value of a kind that no pattern fits, where a text is wanted. -/
  | textKind (kind : Text)
  | disk (why : DiskFault) (path : Text)
  /-- A fault that the storage itself reports, by kind and message. -/
  | system (label message : Text)
  | thresholdNotPositive (shown : Text)
  /-- A value of a kind that has no order with numbers. -/
  | unordered (operator kind : Text)
  | time (fault : TimeFault)
  | unawareCutoff
  | span (fault : Calendar.SpanFault)
  | object (fault : ObjectFault)
  | lengthTooLarge
  | transition (source target : Text)
  | canonical (fault : CanonicalFault)
  /-- An exception of a prover, an oracle or a caller, by kind and message. -/
  | foreign (label message : Text)
  deriving DecidableEq, Repr

namespace Fault

/-- A value that has no place in a list of JSON kinds. -/
def unwritableMessage (pretty : Bool) : JsonFault → Text
  | .unordered => "'<' not supported between keys"
  | .badKey kind => "keys must be str, int, float, bool or None, not " ++ kind
  | .badValue kind => "Object of type " ++ kind ++ " is not JSON serializable"
  | .notFinite d =>
    "Out of range float values are not JSON compliant" ++ if pretty then ": " ++ d.plain else []
  | .longInteger => CanonicalFault.message .longInteger

def pointerMessage (kind : Text) : Text :=
  if kind = "list" then "list indices must be integers or slices, not str"
  else if kind = "str" then "string indices must be integers, not 'str'"
  else "'" ++ kind ++ "' object is not subscriptable"

/-- What is said of a value of another kind where a text is wanted. -/
def textKindMessage (kind : Text) : Text :=
  if kind = "bytes" then "cannot use a string pattern on a bytes-like object"
  else "expected string or bytes-like object, got '" ++ kind ++ "'"

def label : Fault → Text
  | .unknownSlot _ | .longInteger | .thresholdNotPositive _ => "ValueError"
  | .unwritable (.notFinite _) _ | .unwritable .longInteger _ => "ValueError"
  | .unwritable .. => "TypeError"
  | .tooDeep => "RecursionError"
  | .undecodable _ | .undecodableDocument => "UnicodeDecodeError"
  | .unencodable _ => "UnicodeEncodeError"
  | .notJson .. => "JSONDecodeError"
  | .pointerWithoutId => "KeyError"
  | .pointerKind _ | .textKind _ | .unordered .. | .unawareCutoff => "TypeError"
  | .disk why _ => why.label
  | .system label _ => label
  | .time .notAware | .time .beforeCalendar => "ValueError"
  | .time .outOfRange => "OverflowError"
  | .span (.notNumber ..) => "TypeError"
  | .span .notANumber => "ValueError"
  | .span _ => "OverflowError"
  | .object f => f.label
  | .lengthTooLarge => "error"
  | .transition .. => "RuntimeError"
  | .canonical .longInteger => "ValueError"
  | .canonical _ => "CanonicalizationError"
  | .foreign label _ => label

def message : Fault → Text
  | .unknownSlot shown => shown ++ " is not a valid Slot"
  | .unwritable f pretty => unwritableMessage pretty f
  | .longInteger => CanonicalFault.message .longInteger
  | .tooDeep => "maximum recursion depth exceeded"
  | .undecodable f => f.message
  | .undecodableDocument => "the octets are no text"
  | .unencodable points => points.message
  | .notJson what line column position => Json.placeMessage what line column position
  | .pointerWithoutId => "'record_id'"
  | .pointerKind kind => pointerMessage kind
  | .textKind kind => textKindMessage kind
  | .disk why path => why.message path
  | .system _ message => message
  | .thresholdNotPositive shown => "threshold_percent must be positive, got " ++ shown
  | .unordered operator kind =>
    "'" ++ operator ++ "' not supported between instances of '" ++ kind ++ "' and 'int'"
  | .time f => f.message
  | .unawareCutoff => "can't compare offset-naive and offset-aware datetimes"
  | .span f => f.message
  | .object f => f.message
  | .lengthTooLarge => "int too large to convert"
  | .transition source target => "Illegal pipeline transition " ++ source ++ " -> " ++ target
  | .canonical f => f.message
  | .foreign _ message => message

/-- Whether the fault is one of the storage. -/
def isSystem : Fault → Bool
  | .disk why _ => why.isSystem
  | .system .. => true
  | _ => false

/-- Whether the message of the fault is one of this library, rather than that of
the machinery underneath. -/
def isOwn : Fault → Bool
  | .notJson .. | .thresholdNotPositive _ | .time .notAware | .transition .. => true
  | .canonical .longInteger => false
  | .canonical _ => true
  | _ => false

end Fault

/-- What ends an operation. -/
inductive Failure where
  | ledger (e : LedgerError)
  | refused (r : Refusal)
  | fault (f : Fault)
  /-- An exception without a text: to ask for one raises another. -/
  | mute (label : Text) (asked : Failure)
  deriving Repr

namespace Failure

def label : Failure → Text
  | .ledger e => e.label
  | .refused _ => "ValidationError"
  | .fault f => f.label
  | .mute label _ => label

/-- What a log line shows of a failure. -/
def text : Failure → Text
  | .ledger e => e.text
  | .refused r => r.message
  | .fault f => f.message
  | .mute .. => "<exception str() failed>"

/-- What comes of asking a failure for its text, when it has none. -/
def mute? : Failure → Option Failure
  | .mute _ asked => some asked
  | _ => none

/-- What the report of a run shows of a failure. -/
def toData : Failure → Data
  | .ledger e => e.toData
  | f => .dict [(("error" : Text), .text f.label), (("code" : Text), .null),
      (("message" : Text), .text f.text)]

/-- What a refusal means for an operation: one whose text has no octets cannot even be
told. -/
def ofRefusal (r : Refusal) : Failure :=
  match r.unencodable? with
  | some points => .fault (.unencodable points)
  | none => .refused r

/-- A document that describes no record. -/
def ofMalformed (r : Refusal) : Failure :=
  match r.unencodable? with
  | some points => .fault (.unencodable points)
  | none => .ledger (.malformed r)

/-- A configuration that is refused. -/
def ofInvalidConfig (r : Refusal) : Failure :=
  match r.unencodable? with
  | some points => .fault (.unencodable points)
  | none => .ledger (.config (.invalid r))

/-- Fields that are passed by name: every key has to be a text. -/
def named (fields : Intake.Fields) : Except Failure Intake.Fields :=
  if fields.all fun e => e.1.kind == Text.ofString "str" then .ok fields
  else .error (.fault (.foreign "TypeError" "keywords must be strings"))

/-- A threshold from a value of unknown kind. -/
def thresholdOf (d : Data) : Except Failure Threshold :=
  match Threshold.ofData? d with
  | some t => .ok t
  | none => .error (.fault (.unordered "<=" d.kind))

/-- A threshold that is of no use. One with too many digits cannot even be shown. -/
def ofThresholdFault : ThresholdFault → Failure
  | .notPositive t =>
    if t.isShowable then .fault (.thresholdNotPositive t.shown) else .fault .longInteger
  | .tooLarge n => .refused (ThresholdFault.refusal n)

/-- Objects that do not fit a shape. A number with too many digits cannot even be told. -/
def ofShapeMismatch (m : ShapeMismatch) : Failure :=
  if m.isShowable then .ledger (.mismatch (.shape m)) else .fault .longInteger

/-- A document that cannot be loaded. -/
def ofLoadFault : LoadFault → Failure
  | .undecodable => .fault .undecodableDocument
  | .longInteger => .fault .longInteger
  | .tooDeep => .fault .tooDeep
  | .notJson what line column position => .ledger (.notJson what line column position)
  | .notDict => .ledger .notDict
  | .malformed r => .ofMalformed r

/-- A text that is no document. -/
def ofReadFault : Json.ReadFault → Failure
  | .problem what line column position => .fault (.notJson what line column position)
  | .longInteger => .fault .longInteger
  | .tooDeep => .fault .tooDeep

end Failure

end ProofLedger
