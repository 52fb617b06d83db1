import ProofLedger.Disk.Tree
import ProofLedger.Failure
import ProofLedger.Log

/-!
# The directory of a store

A store is four kinds of files: one document for each record, an index
with the names of the records in the order of their arrival, a pointer
that names the baseline, and, while something is being written, one
temporary file. A `Site` is where the store lies and what stands in its
way there: a folder in the place of a file, and storage that does not let
the index grow. Any other call to the storage is taken to succeed, and
the room for nested documents to be the same whoever reads them.

`Step` lists the changes that are made to the files; each is atomic. A
mutation is a `Plan`: it says, from what the directory held before, which
steps are taken, what is reported, and how it ends. So a mutation that
stops halfway is a plan whose steps are cut short.
-/

namespace ProofLedger

/-- The parts of a store that hold records. -/
inductive Slot where
  | baseline
  | history
  deriving DecidableEq, Repr

namespace Slot

def text : Slot → Text
  | .baseline => "baseline"
  | .history => "history"

/-- The slot of a name. -/
def parse (d : Data) : Except Failure Slot :=
  match d with
  | .text t =>
    if t = "history" then .ok .history
    else if t = "baseline" then .ok .baseline
    else .error (.fault (.unknownSlot d.display))
  | d => .error (.fault (.unknownSlot d.display))

end Slot

/-! ## Places -/

/-- The names of the files of a store, as seen from its root. -/
def recordsName : Text := "records"

def indexName : Text := "history.index"

def pointerName : Text := "BASELINE"

def lockName : Text := "store.lock"

/-- The name of a record file within its folder. -/
def recordFileName (id : Text) : Text := id ++ ".json"

/-- The name of a record file as seen from the root. -/
def recordName (id : Text) : Text := recordsName ++ 47 :: recordFileName id

/-- Whether no disk has a file of the name of a record. -/
def isLongName (id : Text) : Bool := Disk.maxName < Disk.width (recordFileName id)

/-- What is wrong with the place of a file. -/
inductive Defect where
  /-- A folder has taken the name of the file, as seen from the root. -/
  | folder (name : Text)
  /-- No line can be added to the index: the storage reports an error of this kind. The index is
  not even opened, or a part of the line, so many octets, comes to stand in it first. -/
  | index (label message : Text) (written : Option Nat)
  deriving DecidableEq, Repr

/-- Where a store lies. -/
structure Site where
  root : Text
  /-- Why the folders of the store could not be made. -/
  obstacle : Option (DiskFault × Text)
  defects : List Defect
  /-- How many levels there is room for in a document besides those of a record; none when there
  is no bound. -/
  spare : Option Nat
  deriving DecidableEq, Repr

namespace Site

/-- A site with nothing in the way. -/
def clear (root : Text) : Site := ⟨root, none, [], none⟩

/-- The path of a name. -/
def path (s : Site) (name : Text) : Text := Path.join s.root name

/-- A fault at a name. -/
def fault (s : Site) (why : DiskFault) (name : Text) : Failure := .fault (.disk why (s.path name))

/-- The room for a document of the store. A record always fits in. -/
def room (s : Site) : Json.Room := s.spare.map (· + ProofRecord.depth)

/-- Whether a folder stands where a file should. -/
def isFolder (s : Site) (name : Text) : Bool := s.defects.contains (.folder name)

/-- Why no line can be added to the index, and how much of one comes to stand there. -/
def appendFault? (s : Site) : Option (Failure × Option Nat) :=
  if s.isFolder indexName then some (s.fault .folder indexName, none)
  else s.defects.findSome? fun
    | .index label message written => some (.fault (.system label message), written)
    | .folder _ => none

/-- A name where there is a file or nothing. -/
def check (s : Site) (name : Text) : Except Failure Unit :=
  if s.isFolder name then .error (s.fault .folder name) else .ok ()

end Site

/-- The files of a store; records are kept under their names. -/
structure Directory where
  records : List (Text × Bytes)
  index : Option Bytes
  pointer : Option Bytes
  temp : Option Bytes
  site : Site
  deriving DecidableEq, Repr

namespace Directory

/-- A store without files. -/
def empty (site : Site) : Directory := ⟨[], none, none, none, site⟩

/-- The octets of the record file of a name. -/
def file? (d : Directory) (id : Text) : Option Bytes :=
  (d.records.find? fun e => e.1 == id).map (·.2)

/-- Whether there is a record file of a name. -/
def hasFile (d : Directory) (id : Text) : Bool := (d.file? id).isSome

end Directory

/-- An atomic change of a directory. -/
inductive Step where
  /-- Makes sure that the folders of the store are there. -/
  | makeFolders
  | writeTemp (content : Bytes)
  /-- Gives the temporary file a second name among the records; the name is free. -/
  | linkTemp (id : Text)
  | removeTemp
  | appendIndex (line : Bytes)
  /-- The temporary file takes the place of the index. -/
  | moveToIndex
  /-- The temporary file takes the place of the pointer. -/
  | moveToPointer
  | removePointer
  | removeRecord (id : Text)
  deriving DecidableEq, Repr

namespace Step

/-- What a step makes of a directory. A step that finds its temporary file missing
or its name taken changes nothing. -/
def apply (s : Step) (d : Directory) : Directory :=
  match s with
  | .makeFolders => d
  | .writeTemp content => { d with temp := some content }
  | .linkTemp id =>
    match d.temp with
    | some content => if d.hasFile id then d else { d with records := d.records ++ [(id, content)] }
    | none => d
  | .removeTemp => { d with temp := none }
  | .appendIndex line => { d with index := some (d.index.getD [] ++ line) }
  | .moveToIndex =>
    match d.temp with
    | some content => { d with index := some content, temp := none }
    | none => d
  | .moveToPointer =>
    match d.temp with
    | some content => { d with pointer := some content, temp := none }
    | none => d
  | .removePointer => { d with pointer := none }
  | .removeRecord id => { d with records := d.records.filter fun e => e.1 != id }

/-- Takes steps one after another. -/
def applyAll (steps : List Step) (d : Directory) : Directory :=
  steps.foldl (fun d s => s.apply d) d

end Step

/-- What a mutation does: the steps it takes, the lines it reports, and its end. -/
structure Plan (α : Type) where
  steps : List Step
  log : List LogLine
  outcome : Except Failure α

namespace Plan

/-- A mutation that ends before its first step. -/
def refuse {α : Type} (f : Failure) : Plan α := ⟨[], [], .error f⟩

/-- What cannot be found out beforehand ends a mutation before its first step. -/
def after {α β : Type} (found : Except Failure α) (next : α → Plan β) : Plan β :=
  match found with
  | .ok a => next a
  | .error f => refuse f

/-- A mutation that changes nothing. -/
def done {α : Type} (a : α) : Plan α := ⟨[], [], .ok a⟩

/-- Two mutations in a row; the second is not begun when the first fails. -/
def andThen {α β : Type} (p : Plan α) (next : α → Plan β) : Plan β :=
  match p.outcome with
  | .ok a =>
    let q := next a
    ⟨p.steps ++ q.steps, p.log ++ q.log, q.outcome⟩
  | .error f => ⟨p.steps, p.log, .error f⟩

/-- The mutation with another result. -/
def returning {α β : Type} (p : Plan α) (b : β) : Plan β :=
  ⟨p.steps, p.log, p.outcome.map fun _ => b⟩

/-- The directory after the mutation. -/
def final {α : Type} (p : Plan α) (d : Directory) : Directory := Step.applyAll p.steps d

end Plan

end ProofLedger
