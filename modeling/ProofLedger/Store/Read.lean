import ProofLedger.Record.Identity
import ProofLedger.Store.Directory
import ProofLedger.Text.Blank

/-!
# Reading a store

Every question that can be put to a directory: which record is the
baseline, which records the history holds, and what a record file says.
Files may have been edited by hand, so each answer may be a failure.
-/

namespace ProofLedger.Directory

/-- A text file: UTF-8, and every line end as a line feed. -/
def readText (content : Bytes) : Except Failure Text :=
  match Text.ofUtf8 content with
  | .ok t => .ok t.universalNewlines
  | .error f => .error (.fault (.undecodable f))

/-- What a pointer document says; null when it names nothing. -/
def target : Json → Except Failure Data
  | .dict es =>
    match es.find? fun e => e.1 == ("record_id" : Text) with
    | some e => .ok e.2.toData
    | none => .error (.fault .pointerWithoutId)
  | j => .error (.fault (.pointerKind j.toData.kind))

/-- What the pointer names; null when there is none. -/
def pointed (d : Directory) : Except Failure Data := do
  d.site.check pointerName
  match d.pointer with
  | none => .ok .null
  | some content => target (← (Json.read (← readText content) d.site.room).mapError .ofReadFault)

/-- The names in an index, without blanks around them; empty lines are none. -/
def namesOf (t : Text) : List Text := (t.lines.map Text.strip).filter (!·.isEmpty)

/-- The names in the history in the order of their arrival. -/
def history (d : Directory) : Except Failure (List Text) := do
  d.site.check indexName
  match d.index with
  | none => .ok []
  | some content => (readText content).map namesOf

/-- What a slot holds. A pointer that names nothing leaves the baseline empty. -/
def list (d : Directory) (slot : Slot) : Except Failure (List Data) :=
  match slot with
  | .history => d.history.map (·.map .text)
  | .baseline => d.pointed.map fun current => if current.holds then [current] else []

/-- A name that a record may be stored under. -/
def checkName (id : Text) : Except Failure Unit :=
  if Identity.isStorable id then .ok () else .error (.ledger (.invalidId id))

/-- A name that a disk can have a file of. -/
def checkLength (d : Directory) (id : Text) : Except Failure Unit :=
  if isLongName id then .error (d.site.fault .longName (recordName id)) else .ok ()

/-- The record file of a name. -/
def content (d : Directory) (id : Text) : Except Failure Bytes := do
  checkName id
  d.checkLength id
  d.site.check (recordName id)
  match d.file? id with
  | some content => .ok content
  | none => .error (.ledger (.absent id))

/-- The record under a name. -/
def get (d : Directory) (id : Text) : Except Failure ProofRecord := do
  (ProofRecord.loadsBytes (← d.content id) d.site.room).mapError .ofLoadFault

/-- A value of unknown kind as a name. -/
def nameOf : Data → Except Failure Text
  | .text id => .ok id
  | other => .error (.fault (.textKind other.kind))

/-- The record under a name of unknown kind. -/
def getNamed (d : Directory) (id : Data) : Except Failure ProofRecord := do d.get (← nameOf id)

/-- Whether anything stands in the place of a record file. -/
def isTaken (d : Directory) (id : Text) : Bool := d.hasFile id || d.site.isFolder (recordName id)

/-- Whether there is something under a name. -/
def contains (d : Directory) (id : Text) : Except Failure Bool :=
  if Identity.isStorable id then (d.checkLength id).map fun _ => d.isTaken id else .ok false

/-- The baseline. -/
def baseline (d : Directory) : Except Failure ProofRecord := do
  match ← d.pointed with
  | .null => .error (.ledger .noBaseline)
  | current => d.getNamed current

/-- The later of two records; the second if both were made at one instant. -/
def later (a b : ProofRecord) : ProofRecord :=
  if b.createdAt.instant < a.createdAt.instant then a else b

/-- The record that was made last; of several made at the same instant, the one
that comes last. -/
def newest : List ProofRecord → Option ProofRecord
  | [] => none
  | r :: rest => some (rest.foldl later r)

/-- The newest record of the history. -/
def latestInHistory (d : Directory) : Except Failure ProofRecord := do
  let records ← (← d.history).mapM d.get
  match newest records with
  | some r => .ok r
  | none => .error (.ledger .emptyHistory)

/-- The newest record of a slot. -/
def latest (d : Directory) (slot : Slot) : Except Failure ProofRecord :=
  match slot with
  | .baseline => d.baseline
  | .history => d.latestInHistory

end ProofLedger.Directory
