import ProofLedger.Store.Read

/-!
# Stores on a disk

How the files of a store lie on a disk. `openStore` makes the folders of a
store and reads it; `keepStore` is the way back: it puts the files of a
store where they belong and takes those away that the store has lost.
-/

namespace ProofLedger

namespace Disk

/-- The name of a record from the name of its file. -/
def recordOf? (fileName : Text) : Option Text :=
  let id := fileName.take (fileName.length - 5)
  if recordFileName id = fileName then some id else none

/-- What lies directly in a folder, by name. -/
def inFolder (d : Disk) (t : Trail) : List (Text × Node) :=
  d.nodes.filterMap fun e =>
    match e.1.getLast? with
    | some name => if e.1.dropLast = t then some (name, e.2) else none
    | none => none

/-- The octets of a file in a folder. -/
def fileIn? (d : Disk) (t : Trail) (name : Text) : Option Bytes :=
  match d.node? (t ++ [name]) with
  | some (.file content) => some content
  | _ => none

/-- The files of a store whose folders are there. -/
def readStore (d : Disk) (root : Text) (t : Trail) : Directory :=
  let records := d.inFolder (t ++ [recordsName])
  let taken := [indexName, pointerName, lockName].filter fun name =>
    d.node? (t ++ [name]) == some .folder
  { records := records.filterMap fun e =>
      match recordOf? e.1, e.2 with
      | some id, .file content => some (id, content)
      | _, _ => none
    index := d.fileIn? t indexName
    pointer := d.fileIn? t pointerName
    temp := none
    site := ⟨root, none, (taken ++ records.filterMap fun e =>
      if e.2 = .folder then some (recordsName ++ 47 :: e.1) else none).map .folder, none⟩ }

/-- Makes the folders of a store and reads what they hold. -/
def openStore (d : Disk) (root : Text) : Disk × Directory :=
  match d.makeFolders (Path.join root recordsName), d.trail root with
  | (d', none), .ok t => (d', d'.readStore root t)
  | (d', obstacle), _ => (d', .empty ⟨root, obstacle, [], none⟩)

/-- Sets a file, or removes it. -/
def setFile (d : Disk) (t : Trail) : Option Bytes → Disk
  | some content => d.set t (.file content)
  | none => { d with nodes := d.nodes.filter fun e => e.1 != t || e.2 == .folder }

/-- Whether a trail is that of a record file of the store at another trail. -/
def isRecordAt (t : Trail) (e : Trail × Node) : Bool :=
  e.1.dropLast == t ++ [recordsName] && e.2 != .folder &&
    ((e.1.getLast?.bind recordOf?).isSome)

/-- The disk with the files of a store at a trail. -/
def writeStore (d : Disk) (t : Trail) (s : Directory) : Disk :=
  let bare := { d with nodes := d.nodes.filter fun e => !isRecordAt t e }
  let full := s.records.foldl (fun d e =>
    d.set (t ++ [recordsName, recordFileName e.1]) (.file e.2)) bare
  (full.setFile (t ++ [indexName]) s.index).setFile (t ++ [pointerName]) s.pointer

/-- The disk with the files of a store, and with its lock once that has been taken. -/
def keepStore (d : Disk) (s : Directory) (locked : Bool) : Disk :=
  match s.site.obstacle, d.trail s.site.root with
  | none, .ok t =>
    let d := d.writeStore t s
    if locked then d.set (t ++ [lockName]) (.file ((d.fileIn? t lockName).getD [])) else d
  | _, _ => d

end Disk

end ProofLedger
