import ProofLedger.Disk.Fault
import ProofLedger.Disk.Path

/-!
# Disks

A disk is a tree of folders and files. A path leads through folders only,
and two points lead back to the folder above the one reached so far. Each
operation either changes the tree or says why the path cannot be used;
`makeFolders` makes every folder on the way, and those it has made remain
when a later one cannot be made.
-/

namespace ProofLedger

/-- The names on the way from the root of a disk. -/
abbrev Trail := List Text

/-- What is at a place of a disk. -/
inductive Node where
  | folder
  | file (content : Bytes)
  deriving DecidableEq, Repr

/-- The folders and files of a disk under their trails, and the folder that relative
paths start from. The root is a folder whether it is listed or not. -/
structure Disk where
  nodes : List (Trail × Node)
  base : Trail
  deriving DecidableEq, Repr

namespace Disk

/-- A disk without files. -/
def empty : Disk := ⟨[], []⟩

/-- What is at the end of a trail. -/
def node? (d : Disk) (t : Trail) : Option Node :=
  if t.isEmpty then some .folder else (d.nodes.find? fun e => e.1 == t).map (·.2)

/-- Puts something at the end of a trail. -/
def set (d : Disk) (t : Trail) (n : Node) : Disk :=
  { d with nodes := d.nodes.filter (fun e => e.1 != t) ++ [(t, n)] }

/-! ## Names -/

/-- A lone surrogate of this range stands for an octet that is no text. -/
def isLooseOctet (c : Nat) : Bool := 0xDC80 ≤ c && c ≤ 0xDCFF

/-- How many octets a name takes. -/
def width (name : Text) : Nat :=
  (name.map fun c => if isLooseOctet c then 1 else (Text.Utf8.encodePoint c).length).foldr
    (· + ·) 0

/-- The most octets of one name, and of a path. -/
def maxName : Nat := 255

def maxPath : Nat := 4095

/-- Why no disk has a file of some path. -/
def pathFault? (path : Text) : Option DiskFault :=
  match Text.octets (path.map fun c => if isLooseOctet c then 63 else c) with
  | .error points => some (.unencodable points)
  | .ok _ =>
    if path.contains 0 then some .nullPoint
    else if maxPath < width path then some .longName
    else none

/-- The way along a path as far as the first name with a null point in it. -/
def wayToNull (path : Text) : Text :=
  path.takeWhile (· != 0) ++ (path.dropWhile (· != 0)).takeWhile (· != 47)

/-- Why the names along a path cannot even be looked up, one after another. -/
def wayFault? (path : Text) : Option DiskFault :=
  (pathFault? (wayToNull (Path.normal path))).filter (!·.isSystem)

/-! ## Finding -/

/-- Follows names from a place on. Whatever the last name stands for may be missing;
before it there must be folders. -/
def follow (d : Disk) (t : Trail) : List Text → Except DiskFault Trail
  | [] => .ok t
  | name :: rest =>
    match d.node? t with
    | none => .error .missing
    | some (.file _) => .error .notFolder
    | some .folder =>
      if name = [46, 46] then d.follow t.dropLast rest
      else if maxName < width name then .error .longName
      else d.follow (t ++ [name]) rest

/-- The place that a path means. -/
def trail (d : Disk) (path : Text) : Except DiskFault Trail :=
  match pathFault? path with
  | some f => .error f
  | none => d.follow (if Path.isAbsolute path then [] else d.base) (Path.parts path)

/-- What a path leads to. -/
def find (d : Disk) (path : Text) : Except DiskFault Node := do
  match d.node? (← d.trail path) with
  | some n => .ok n
  | none => .error .missing

/-- The content of the file of a path. -/
def read (d : Disk) (path : Text) : Except DiskFault Bytes := do
  match ← d.find path with
  | .file content => .ok content
  | .folder => .error .folder

def isFolder (d : Disk) (path : Text) : Bool :=
  match d.find path with
  | .ok .folder => true
  | _ => false

/-! ## Changing -/

/-- Gives a file new content, which may depend on the old one. -/
def write (d : Disk) (path : Text) (change : Bytes → Bytes) : Except DiskFault Disk := do
  let t ← d.trail path
  match d.node? t with
  | some .folder => .error .folder
  | some (.file old) => .ok (d.set t (.file (change old)))
  | none => .ok (d.set t (.file (change [])))

/-- Removes a file. -/
def remove (d : Disk) (path : Text) : Except DiskFault Disk := do
  let t ← d.trail path
  match d.node? t with
  | some .folder => .error .folder
  | some (.file _) => .ok { d with nodes := d.nodes.filter fun e => e.1 != t }
  | none => .error .missing

/-- Makes a folder in one that is there. -/
def makeFolder (d : Disk) (path : Text) : Except DiskFault Disk := do
  let t ← d.trail path
  match d.node? t with
  | some _ => .error .taken
  | none => .ok (d.set t .folder)

/-- Makes a folder unless it is there. -/
def ensureFolder (d : Disk) (path : Text) : Except DiskFault Disk :=
  match d.makeFolder path with
  | .error f => if d.isFolder path then .ok d else .error f
  | made => made

/-- A disk after an attempt, and the path at which the attempt ended if it failed. -/
abbrev Attempt := Disk × Option (DiskFault × Text)

/-- An attempt at a single path; the disk stays as it was when it fails. -/
def attempt (d : Disk) (path : Text) (r : Except DiskFault Disk) : Attempt :=
  match r with
  | .ok d => (d, none)
  | .error f => (d, some (f, path))

/-- Makes a folder and the folders on the way to it, as many as the fuel allows. -/
def makeFoldersFrom (d : Disk) (path : Text) : Nat → Attempt
  | 0 => d.attempt path (d.ensureFolder path)
  | fuel + 1 =>
    match d.ensureFolder path with
    | .error .missing =>
      match d.makeFoldersFrom (Path.parent path) fuel with
      | (d, none) => d.attempt path (d.ensureFolder path)
      | failed => failed
    | r => d.attempt path r

/-- Makes a folder and every folder on the way to it. -/
def makeFolders (d : Disk) (path : Text) : Attempt :=
  d.makeFoldersFrom path (Path.parts path).length

/-- The trails and contents of all files. -/
def files (d : Disk) : List (Trail × Bytes) :=
  d.nodes.filterMap fun e =>
    match e.2 with
    | .file content => some (e.1, content)
    | .folder => none

end Disk

end ProofLedger
