import ProofLedger.CommandLine.Execute
import Std.Time

/-!
# The command line program

Reads the part of the disk that a command can meet, carries the command
out, and brings the disk to where the command has brought its world: new
folders first, then the store, step by step, then the reports. A lock on
the store is held from the first reading to the last step, so that two
programs never work on one store at the same time.

Time is measured beforehand: the timer advances at each reading by what
one reference proof of the configured input takes on this machine.
-/

open ProofLedger ProofLedger.CommandLine

namespace ProofLedger.Program

/-! ## Reading the disk -/

def bytesOf (b : Bytes) : ByteArray := ⟨b.toArray⟩

/-- The path of a trail. -/
def pathOf (t : Trail) : String := Text.toString (47 :: Text.join [47] t)

/-- What is at the end of a trail. -/
def nodeAt (t : Trail) : IO (Option Node) := do
  let p := (← IO.currentDir) / pathOf t
  if ← p.isDir then return some .folder
  if ← p.pathExists then return some (.file (← IO.FS.readBinFile p).toList)
  return none

/-- Takes notice of what is at the ends of trails. -/
def look (d : Disk) : List Trail → IO Disk
  | [] => return d
  | t :: rest => do
    match ← nodeAt t with
    | some n => look (d.set t n) rest
    | none => look d rest

/-- The trails on the way along a path from the root; there is no way along a path with
names that are none. -/
def waypoints (path : Text) : List Trail :=
  match Disk.wayFault? path with
  | some _ => []
  | none =>
    let names := Path.parts path
    (List.range names.length).map fun n => Path.climb [] (names.take (n + 1))

/-- The trails of what is in a folder. -/
def entriesOf (t : Trail) : IO (List Trail) := do
  let p := (← IO.currentDir) / pathOf t
  if ← p.isDir then
    return (← p.readDir).toList.map fun e => t ++ [Text.ofString e.fileName]
  return []

/-- The disk along some paths, and the files of the store at the first of them. -/
def readDisk (directory root : Text) (reports : List Text) : IO Disk := do
  let blank : Disk := ⟨[], Path.parts directory⟩
  let d ← look blank ((Path.join root recordsName :: reports).flatMap waypoints)
  match d.trail root with
  | .error _ => return d
  | .ok t => look (← look d (← entriesOf (t ++ [recordsName]))) (← entriesOf t)

/-- The paths of the reports of a request. -/
def reportPaths (directory : Text) (r : Request) : List Text :=
  match r.options.outputDirectory with
  | some (.value p) =>
    let folder := Path.join directory p
    [Path.join folder (r.command.name ++ ".json"), Path.join folder (r.command.name ++ ".md")]
  | _ => []

/-! ## Changing the disk -/

/-- The trails of the files of a store that steps work on. -/
structure Places where
  root : Trail

namespace Places

def record (p : Places) (id : Text) : String := pathOf (p.root ++ [recordsName, recordFileName id])

def index (p : Places) : String := pathOf (p.root ++ [indexName])

def pointer (p : Places) : String := pathOf (p.root ++ [pointerName])

def temp (p : Places) : String := pathOf (p.root ++ [(".pending.json" : Text)])

def lock (p : Places) : String := pathOf (p.root ++ [lockName])

end Places

/-- Takes a step on the disk. The folders are there already. -/
def takeStep (p : Places) (s : Step) : IO Unit :=
  match s with
  | .makeFolders => pure ()
  | .writeTemp content => IO.FS.writeBinFile p.temp (bytesOf content)
  | .linkTemp id => IO.FS.hardLink p.temp (p.record id)
  | .removeTemp => IO.FS.removeFile p.temp
  | .appendIndex line => do
    let h ← IO.FS.Handle.mk p.index .append
    h.write (bytesOf line)
    h.flush
  | .moveToIndex => IO.FS.rename p.temp p.index
  | .moveToPointer => IO.FS.rename p.temp p.pointer
  | .removePointer => IO.FS.removeFile p.pointer
  | .removeRecord id => IO.FS.removeFile (p.record id)

/-- Makes the folders that one disk has and another lacks. -/
def makeFolders (before after : Disk) : IO Unit := do
  for (t, n) in after.nodes do
    if n == .folder && before.node? t != some .folder then
      IO.FS.createDirAll (pathOf t)

/-- Writes the files in which one disk differs from another. -/
def writeFiles (before after : Disk) : IO Unit := do
  for (t, content) in after.files do
    if before.node? t != some (.file content) then
      IO.FS.writeBinFile (pathOf t) (bytesOf content)

/-- Brings the disk to where commands have brought their world. -/
def commit (before : Disk) (w : World) : IO Unit := do
  let after := w.finalDisk
  makeFolders before after
  let opened := before.openStore w.store.site.root
  match opened.1.trail w.store.site.root with
  | .error _ => writeFiles opened.1 after
  | .ok t =>
    w.journal.forM (takeStep ⟨t⟩)
    writeFiles (opened.1.keepStore (Step.applyAll w.journal opened.2) w.locked) after

/-- Does something while the lock of a store is held. -/
def whileLocked {α : Type} (d : Disk) (root : Text) (act : IO α) : IO α := do
  let (opened, store) := d.openStore root
  match store.site.obstacle, opened.trail root with
  | none, .ok t =>
    makeFolders d opened
    let h ← IO.FS.Handle.mk (Places.mk t).lock .append
    h.lock
    let a ← act
    h.unlock
    return a
  | _, _ => act

/-! ## What surrounds the program -/

/-- The variables that say something about a configuration. -/
def readVariables : List Text → IO (List (Text × Data))
  | [] => return []
  | field :: rest => do
    let name := Config.variableOf field
    let found ← readVariables rest
    match ← IO.getEnv name.toString with
    | some value => return (name, .text (.ofString value)) :: found
    | none => return found

/-- An account and its home directory, from a line of the list of accounts. -/
def homeFrom (line : Text) : Option (Text × Text) :=
  match Text.splitOn 58 line with
  | name :: _ :: _ :: _ :: _ :: home :: _ => some (name, home)
  | _ => none

/-- The home directories of the accounts of the machine; the empty name is the one of the
caller. -/
def readHomes : IO Path.Homes := do
  let own := Text.ofString ((← IO.getEnv "HOME").getD "/")
  let list ← try IO.FS.readFile "/etc/passwd" catch _ => pure ""
  return ([], own) :: (Text.lines (.ofString list)).filterMap homeFrom

/-- What surrounds a request; of all files only the one with its configuration is
looked at. -/
def readSurroundings (o : Options) : IO Config.Surroundings := do
  let directory := Text.ofString (← IO.currentDir).toString
  let bare : Config.Surroundings :=
    { directory
      homes := ← readHomes
      environment := ← readVariables Config.fieldNames
      find := fun _ => .error .missing }
  match Config.filePath bare (o.config.bind Given.value?) with
  | .error _ => return bare
  | .ok path =>
    let d ← look ⟨[], Path.parts directory⟩ (waypoints path)
    return { bare with find := d.find }

/-! ## Instruments -/

/-- The first moment that the clock of the machine counts from. -/
def epoch : Option Moment := Moment.ofText? "1970-01-01T00:00:00+00:00"

/-- The moment some microseconds after the first one. -/
def momentAfter (micros : Int) : Except TimeFault Moment :=
  match epoch.bind fun m => m.add? micros with
  | some m => .ok m
  | none => .error .outOfRange

/-- The seconds that the reference proof of an input takes. -/
def measureProof (c : Config) : IO Double := do
  match c.proveInput with
  | .error _ => return .zero
  | .ok input =>
    let started ← IO.monoNanosNow
    let _ ← IO.lazyPure fun _ => (Reference.proof input).isOk
    let nanos := (← IO.monoNanosNow) - started
    return (Double.ofNat nanos).div (Double.ofNat 1000000000)

/-- The clock of the machine, and a timer that advances at every reading. -/
def readInstruments (c : Config) : IO Instruments := do
  let span ← measureProof c
  let micros := (← Std.Time.Timestamp.now).toNanosecondsSinceUnixEpoch.toInt / 1000
  return ⟨fun n => momentAfter (micros + n), fun n => (Double.ofNat n).mul span⟩

/-! ## The program -/

def printOut (t : Text) : IO Unit := do (← IO.getStdout).putStr t.toString

/-- A line of text. -/
def line (t : Text) : Text := t ++ [10]

def printNotes (t : Text) : IO Unit := do (← IO.getStderr).putStr t.toString

def helpLines : List Text :=
  ["usage: proofguard [-h] [--version] COMMAND ...",
    "",
    "Captures, verifies and compares proofs against a trusted baseline.",
    "",
    "commands:",
    "  capture-baseline   prove the fixed input and make the result the new baseline",
    "  capture-candidate  prove the fixed input and compare the result with the baseline",
    "  verify             verify a stored record again",
    "  compare            compare two stored records (default: baseline and latest)",
    "  list               list record ids in a slot",
    "  show               print a stored record document",
    "  promote            make an existing record the baseline",
    "  prune              delete history records older than a cutoff",
    "",
    "options of every command:",
    "  --config PATH  --store PATH  --threshold PERCENT  --log-level LEVEL",
    "  --output-dir PATH  --fail-on-regression  --quiet",
    "",
    "options of captures:",
    "  --length N  --block-commitment WORDS  --nonce WORDS  --test-name NAME",
    "  --label LABEL  --accept-hash-change (capture-baseline only)",
    "",
    "other options:",
    "  list: --slot SLOT    prune: --older-than-days DAYS, --include-baseline"]

/-- Prints what commands have printed and said, and what they end with. -/
def finish (level : Text) (w : World) (e : Except Failure Nat) : IO UInt32 := do
  printOut w.output
  printNotes (shownLog level w.log ++ w.notes)
  match e with
  | .ok status => return .ofNat status
  | .error f =>
    printNotes (line (unexpectedLine f))
    return 1

/-- Carries out a command on the disk. -/
def runCommand (r : Request) (directory : Text) (c : Config) : IO UInt32 := do
  let root := Path.join directory c.storeRoot
  let read := readDisk directory root (reportPaths directory r)
  let instruments ← readInstruments c
  let work : IO UInt32 := do
    let d ← read
    let (e, w) := execute instruments ⟨directory, r.options⟩ c r.command (World.on d c.storeRoot)
    commit d w
    finish c.logLevel w e
  if needsStore c r.command then whileLocked (← read) root work else work

/-- Configures a request and carries it out. -/
def runRequest (r : Request) : IO UInt32 := do
  let s ← readSurroundings r.options
  match configure s r.options with
  | .error f =>
    let (message, status) := decline f
    printNotes (line message)
    return .ofNat status
  | .ok c => runCommand r s.directory c

end ProofLedger.Program

open ProofLedger.Program in
/-- The program; its exit status is that of the command. -/
def main (args : List String) : IO UInt32 := do
  match Request.read (args.map Text.ofString) with
  | .error .help =>
    printOut (helpLines.flatMap line)
    return 0
  | .error .version =>
    printOut (line versionText)
    return 0
  | .error (.usage name message) =>
    printNotes (line (name ++ ": error: " ++ message))
    return 2
  | .ok none =>
    printOut (helpLines.flatMap line)
    return 2
  | .ok (some r) => runRequest r
