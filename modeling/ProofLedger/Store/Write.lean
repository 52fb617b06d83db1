import ProofLedger.Store.Read

/-!
# Changing a store

The mutations of a store as plans: `put` stores a record or makes it the
baseline, `promote` makes a stored record the baseline, and `prune`
forgets records that are old enough. A record file is written under a
temporary name and linked to its own, so that it is never seen half
written; the pointer moves after the record it names is stored.
-/

namespace ProofLedger.Directory

/-- The octets of a text. -/
def octets (t : Text) : Bytes := Text.Utf8.encode t

/-- An index line. -/
def indexLine (id : Text) : Bytes := octets (id ++ [10])

/-- The text of a record file. -/
def document (r : ProofRecord) : Except Failure Text :=
  r.dumps.mapError fun f => .fault (.unwritable f true)

/-- The octets of a record file. -/
def documentOctets (r : ProofRecord) : Except Failure Bytes := do
  (← document r).octets.mapError fun points => .fault (.unencodable points)

/-- The text of a pointer. -/
def pointerText (id : Text) : Text := (Json.dict [("record_id", .text id)]).pretty

/-- The steps that store a record under a free name. -/
def createSteps (id : Text) (content : Bytes) : List Step :=
  [.writeTemp content, .linkTemp id, .removeTemp, .appendIndex (indexLine id)]

/-- The steps that move the pointer. -/
def swapSteps (id : Text) : List Step := [.writeTemp (octets (pointerText id)), .moveToPointer]

def storedLine (id : Text) : LogLine :=
  ⟨.info, .store, "stored record " ++ id ++ " in history"⟩

/-- What the pointer named, as a log line shows it. -/
def shownTarget (current : Data) : Text := if current.holds then current.shown else "<none>"

def movedLine (current : Data) (id : Text) : LogLine :=
  ⟨.info, .store, "baseline pointer moved " ++ shownTarget current ++ " -> " ++ id⟩

/-- All that happens when a record file cannot be made: a temporary file comes and
goes. -/
def fail (content : Bytes) (f : Failure) : Plan Unit :=
  ⟨[.writeTemp content, .removeTemp], [], .error f⟩

/-- The steps that store a record under a free name when the index cannot take its line: the file
stays, and the octets of the line that were written stay as well. -/
def strandSteps (id : Text) (content : Bytes) (written : Option Nat) : List Step :=
  [.writeTemp content, .linkTemp id, .removeTemp] ++
    (written.map fun n => Step.appendIndex ((indexLine id).take n)).toList

/-- Makes the record file of a name and the index line on it. -/
def create (d : Directory) (id : Text) (content : Bytes) : Plan Unit :=
  match d.checkLength id, d.isTaken id, d.site.appendFault? with
  | .error f, _, _ => fail content f
  | .ok (), true, _ => fail content (.ledger (.duplicate (.stored id)))
  | .ok (), false, some (f, written) => ⟨strandSteps id content written, [], .error f⟩
  | .ok (), false, none => ⟨createSteps id content, [], .ok ()⟩

/-- Stores a new record. -/
def putHistory (d : Directory) (r : ProofRecord) : Plan Unit :=
  .after (checkName r.id.val) fun _ =>
  .after (documentOctets r) fun content =>
  (d.create r.id.val content).andThen fun _ => ⟨[], [storedLine r.id.val], .ok ()⟩

/-- Whether the pointer names a record already. -/
def notBaseline (current : Data) (id : Text) : Except Failure Unit :=
  match current with
  | .text t => if t = id then .error (.ledger (.duplicate (.baseline id))) else .ok ()
  | _ => .ok ()

/-- Whether a record file holds the text of a record. -/
def sameText (r : ProofRecord) (content : Bytes) : Except Failure Unit := do
  let found ← readText content
  if found = (← document r) then .ok () else .error (.ledger (.duplicate (.different r.id.val)))

/-- Makes sure that a record is stored: nothing is done when its file is there with the
same text. -/
def ensure (d : Directory) (r : ProofRecord) : Plan Unit :=
  .after (d.checkLength r.id.val) fun _ =>
  .after (d.site.check (recordName r.id.val)) fun _ =>
  match d.file? r.id.val with
  | some content => .after (sameText r content) .done
  | none => .after (documentOctets r) fun content => d.create r.id.val content

/-- Stores a record unless it is stored already, and moves the pointer to it. -/
def putBaseline (d : Directory) (r : ProofRecord) : Plan Unit :=
  .after d.pointed fun current =>
  .after (notBaseline current r.id.val) fun _ =>
  .after (checkName r.id.val) fun _ =>
  (d.ensure r).andThen fun _ => ⟨swapSteps r.id.val, [movedLine current r.id.val], .ok ()⟩

/-- Stores a record in a slot. -/
def put (d : Directory) (r : ProofRecord) (slot : Slot) : Plan Unit :=
  match slot with
  | .history => d.putHistory r
  | .baseline => d.putBaseline r

/-- Makes the record under a name the baseline. -/
def promote (d : Directory) (id : Text) : Plan ProofRecord :=
  .after (d.get id) fun r => (d.putBaseline r).returning r

/-! ## Forgetting records -/

/-- Whether a record was made before the cutoff. A cutoff on a clock of unknown
distance from UTC cannot be compared with a record. -/
def isOld (cutoff : Moment) (r : ProofRecord) : Except Failure Bool :=
  if cutoff.isAware then .ok (decide (r.createdAt.instant < cutoff.instant))
  else .error (.fault .unawareCutoff)

/-- Whether a record goes: it is old, and not the baseline if that is kept. -/
def goes (d : Directory) (cutoff : Moment) (kept : Option Text) (id : Text) :
    Except Failure Bool := do
  let old ← isOld cutoff (← d.get id)
  pure (old && kept != some id)

/-- The names that go, in the order of their arrival. -/
def doomed (d : Directory) (cutoff : Moment) (kept : Option Text) (ids : List Text) :
    Except Failure (List Bool) :=
  ids.mapM (d.goes cutoff kept)

def prunedLine (id : Text) : LogLine := ⟨.info, .store, "pruned record " ++ id⟩

def unsetLine (id : Text) : LogLine :=
  ⟨.warning, .store, "pruned the baseline record " ++ id ++ "; baseline is now unset"⟩

/-- Removes record files one after another; `gone` are those removed before. A
name that comes twice is not found the second time. -/
def removals (site : Site) (gone : List Text) : List Text → Plan Unit
  | [] => .done ()
  | id :: rest =>
    if gone.contains id then .refuse (site.fault .missing (recordName id))
    else
      let later := removals site (id :: gone) rest
      ⟨.removeRecord id :: later.steps, prunedLine id :: later.log, later.outcome⟩

/-- The name that the pointer holds, if it is one. -/
def name? : Data → Option Text
  | .text t => some t
  | _ => none

/-- The steps that take names out of a history: the index is written anew, the
pointer goes if its record does, and then the record files go. -/
def forget (site : Site) (current : Option Text) (kept deleted : List Text) : Plan (List Text) :=
  let index := [Step.writeTemp (octets (kept.flatMap (· ++ [10]))), .moveToIndex]
  let unset := current.filter deleted.contains
  let files := removals site [] deleted
  ⟨index ++ ((unset.map fun _ => Step.removePointer).toList ++ files.steps),
    (unset.map unsetLine).toList ++ files.log, files.outcome.map fun _ => deleted⟩

/-- Forgets the records made before a cutoff and returns their names; the baseline
stays when `keepBaseline` is set. -/
def pruneBefore (d : Directory) (cutoff : Moment) (keepBaseline : Bool) : Plan (List Text) :=
  .after d.pointed fun current =>
  .after d.history fun ids =>
  .after (d.doomed cutoff (if keepBaseline then name? current else none) ids) fun marks =>
  let marked := ids.zip marks
  let deleted := (marked.filter (·.2)).map (·.1)
  let kept := (marked.filter (!·.2)).map (·.1)
  if deleted.isEmpty then .done [] else forget d.site (name? current) kept deleted

/-- The moment a span before now. -/
def cutoffOf (now : Moment) (age : Int) : Except Failure Moment :=
  match now.add? (-age) with
  | some m => .ok m
  | none => .error (.fault (.time .outOfRange))

/-- Forgets the records that are older than a span of microseconds. -/
def prune (d : Directory) (now : Moment) (age : Int) (keepBaseline : Bool) : Plan (List Text) :=
  .after (cutoffOf now age) fun cutoff => d.pruneBefore cutoff keepBaseline

end ProofLedger.Directory
