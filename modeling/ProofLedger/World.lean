import ProofLedger.Disk.Placement
import ProofLedger.Prover
import ProofLedger.Store.Write

/-!
# What commands act on

Commands read a clock and a timer, ask provers and oracles, change a
store, write files and report what they do. The world holds what they
leave behind: the files of the store, the steps that made them so, the
disk around them, the log, what was printed, and how often each
instrument has been asked. The instruments themselves are functions of
that count, so a command is a function from a world to its end and the
next world.
-/

namespace ProofLedger

/-- A clock and a timer; each answer depends on how often they were read before. -/
structure Instruments where
  clock : Nat → Except TimeFault Moment
  timer : Nat → Double

/-- What commands leave behind. -/
structure World where
  store : Directory
  /-- Every step that was taken on the store, in order. -/
  journal : List Step
  /-- Whether the lock of the store has been taken. -/
  locked : Bool
  /-- The disk, apart from what the commands do to the store on it. -/
  disk : Disk
  /-- What every attempt to store a record ends with, when storage is out of order. -/
  storeFault : Option Failure
  clockReads : Nat
  timerReads : Nat
  proverCalls : Nat
  oracleCalls : Nat
  log : List LogLine
  /-- What was printed for machines. -/
  output : Text
  /-- What was printed for people. -/
  notes : Text
  deriving Repr

/-- The world of a store in which nothing has been asked yet. -/
def World.of (store : Directory) : World :=
  ⟨store, [], false, .empty, none, 0, 0, 0, 0, [], [], []⟩

/-- The world of a store on a disk. -/
def World.on (d : Disk) (root : Text) : World :=
  { World.of (d.openStore root).2 with disk := d }

/-- The disk as commands leave it. -/
def World.finalDisk (w : World) : Disk := w.disk.keepStore w.store w.locked

/-- A command: from a world to an end and the world after it. -/
abbrev Act (α : Type) := ExceptT Failure (StateM World) α

namespace Act

/-- What is known before the command begins. -/
def lift {α : Type} (e : Except Failure α) : Act α := fun w => (e, w)

/-- What cannot fail. -/
def always {α : Type} (a : StateM World α) : Act α := fun w =>
  let (r, w') := a w
  (.ok r, w')

/-- Ends the command. -/
def raise {α : Type} (f : Failure) : Act α := lift (.error f)

/-- The end of a command as a value. -/
def attempt {α : Type} (a : Act α) : Act (Except Failure α) := always a

/-- Writes lines to the log. -/
def reportAll (lines : List LogLine) : Act Unit := fun w =>
  (.ok (), { w with log := w.log ++ lines })

/-- Writes a line to the log. -/
def report (level : LogLevel) (source : LogSource) (message : Text) : Act Unit :=
  reportAll [⟨level, source, message⟩]

/-- A question to the store. -/
def ask {α : Type} (question : Directory → Except Failure α) : Act α := fun w =>
  (question w.store, w)

/-- Carries out a mutation of the store. -/
def carryOut {α : Type} (plan : Directory → Plan α) : Act α := fun w =>
  let p := plan w.store
  (p.outcome,
    { w with store := p.final w.store, journal := w.journal ++ p.steps, log := w.log ++ p.log })

/-- Reads the clock. -/
def readClock (t : Instruments) : Act Moment := fun w =>
  ((t.clock w.clockReads).mapError fun f => .fault (.time f),
    { w with clockReads := w.clockReads + 1 })

/-- Reads the timer. -/
def readTimer (t : Instruments) : Act Double := fun w =>
  (.ok (t.timer w.timerReads), { w with timerReads := w.timerReads + 1 })

/-- The seconds since an earlier reading of the timer; never less than zero. -/
def elapsed (t : Instruments) (started : Double) : Act Double := do
  pure (Double.zero.max ((← readTimer t).sub started))

/-- The text of a moment. -/
def stamp (m : Moment) : Act Text := lift (m.format.mapError fun f => .fault (.time f))

/-- Asks a prover. -/
def prove (p : Prover) (i : ProveInput) : Act ProveAnswer := fun w =>
  (.ok (p.prove w.proverCalls i), { w with proverCalls := w.proverCalls + 1 })

/-- Asks an oracle. -/
def judge (o : Oracle) (r : ProofRecord) : Act JudgeAnswer := fun w =>
  (.ok (o.judge w.oracleCalls r.input r.objects), { w with oracleCalls := w.oracleCalls + 1 })

/-- Makes sure that the folders of the store are there. -/
def openStore : Act Unit := fun w =>
  let w := { w with
    disk := (w.disk.openStore w.store.site.root).1
    journal := w.journal ++ [Step.makeFolders] }
  match w.store.site.obstacle with
  | some (why, path) => (.error (.fault (.disk why path)), w)
  | none => (.ok (), w)

/-- Carries out a mutation of the store while its lock is held. -/
def locking {α : Type} (plan : Directory → Plan α) : Act α := fun w =>
  match w.store.site.check lockName with
  | .error f => (.error f, w)
  | .ok () => carryOut plan { w with locked := true }

/-- Carries out a mutation that stores a record, unless storage is out of order. -/
def storing {α : Type} (slot : Data) (plan : Slot → Directory → Plan α) : Act α := fun w =>
  match w.storeFault, Slot.parse slot with
  | some f, _ => (.error f, w)
  | none, .error f => (.error f, w)
  | none, .ok s => locking (plan s) w

/-- Stores a record in the slot of a name. -/
def put (r : ProofRecord) (slot : Data) : Act Unit := storing slot fun s d => d.put r s

/-- Makes a stored record the baseline. -/
def promote (id : Data) : Act ProofRecord := do
  let r ← ask (·.getNamed id)
  storing (.text Slot.baseline.text) fun _ d => d.putBaseline r
  pure r

/-- Forgets the records that are older than a span of microseconds, now. -/
def prune (t : Instruments) (age : Int) (keepBaseline : Bool) : Act (List Text) := do
  let cutoff ← lift (Directory.cutoffOf (← readClock t) age)
  locking (·.pruneBefore cutoff keepBaseline)

/-! ## Printing and writing -/

/-- Prints something for machines. -/
def print (t : Text) : Act Unit := fun w => (.ok (), { w with output := w.output ++ t })

/-- Prints lines for people. -/
def say (lines : List Text) : Act Unit := fun w =>
  (.ok (), { w with notes := w.notes ++ lines.flatMap (· ++ [10]) })

/-- Does something to the disk, the files of the store included. -/
def onDisk (change : Disk → Disk.Attempt) : Act Unit := fun w =>
  let (d, fault) := change (w.disk.keepStore w.store w.locked)
  let w := { w with disk := d, store := (d.openStore w.store.site.root).2 }
  match fault with
  | some (why, path) => (.error (.fault (.disk why path)), w)
  | none => (.ok (), w)

/-- Makes a folder and every folder on the way to it. -/
def makeFolders (path : Text) : Act Unit := onDisk (·.makeFolders path)

/-- Writes a text as a file. The file is empty when the text has no octets. -/
def writeText (path t : Text) : Act Unit := do
  let empty := fun (d : Disk) => d.attempt path (d.write path fun _ => [])
  onDisk empty
  match t.octets with
  | .ok content => onDisk fun d => d.attempt path (d.write path fun _ => content)
  | .error points => raise (.fault (.unencodable points))

end Act

end ProofLedger
