import ProofLedger.Config.Basic
import ProofLedger.Disk.Tree
import ProofLedger.Failure
import ProofLedger.Toml.Document

/-!
# Where a configuration comes from

Four sources speak about each field: the command line before the
variables of the environment, these before the configuration file, and
that before the defaults. Each source becomes a list of fields; laid over
one another they are checked once, and the input they describe is checked
as well.
-/

namespace ProofLedger.Config

/-- What surrounds a command: its directory, the home directories, the variables,
what paths lead to, and the room that is left for nested values of a file. Variables are
texts, but whoever stands in for an environment may hand over anything. -/
structure Surroundings where
  directory : Text
  homes : Path.Homes
  environment : List (Text × Data)
  find : Text → Except DiskFault Node
  stack : Toml.Stack := .boundless

/-- Whether a value is given at all. -/
def isGiven : Data → Bool
  | .null => false
  | _ => true

/-- The value of a variable. -/
def Surroundings.variable? (s : Surroundings) (name : Text) : Option Data :=
  ((s.environment.find? fun e => e.1 == name).map (·.2)).filter isGiven

/-- The failure of a value that lacks an operation. -/
def lacking (operation : Text) (d : Data) : Failure :=
  .fault (.foreign "AttributeError"
    ("'" ++ d.kind ++ "' object has no attribute '" ++ operation ++ "'"))

def fail {α : Type} (f : ConfigFault) : Except Failure α := .error (.ledger (.config f))

/-! ## The configuration file -/

/-- The name of the file that is read when none is named. -/
def defaultFile : Text := "proofguard.toml"

/-- The fields that a file may set: section, key, and field. -/
def fileFields : List (Text × Text × Text) :=
  [("store", "root", "store_root"),
    ("compare", "threshold_percent", "threshold_percent"),
    ("compare", "fail_on_regression", "fail_on_regression"),
    ("engine", "prover", "engine"),
    ("engine", "oracle", "oracle"),
    ("input", "length", "length"),
    ("input", "block_commitment", "block_commitment"),
    ("input", "nonce", "nonce"),
    ("input", "test_name", "test_name"),
    ("logging", "level", "log_level")]

/-- The field that a key of a section sets. -/
def fieldOf (table key : Key) : Except Failure Text :=
  match fileFields.find? fun f => table == .text f.1 && key == .text f.2.1 with
  | some f => .ok f.2.2
  | none => fail (.unknownKey table.toData.shown key.toData.shown)

/-- Adds the entries of a section to the fields. -/
def addSection (table : Key) : Intake.Fields → Intake.Fields → Except Failure Intake.Fields
  | flat, [] => .ok flat
  | flat, (key, v) :: rest => do
    addSection table (setEntry flat (.text (← fieldOf table key)) v) rest

/-- Adds the entries of all sections to the fields. -/
def addSections : Intake.Fields → Intake.Fields → Except Failure Intake.Fields
  | flat, [] => .ok flat
  | flat, (table, .dict entries) :: rest => do addSections (← addSection table flat entries) rest
  | _, (table, _) :: _ => fail (.sectionNotTable table.toData.shown)

/-- Why a path cannot even be looked for: some name on the way is none. -/
def nameFault? (path : Text) : Option Failure :=
  (Disk.wayFault? path).map fun why => .fault (.disk why path)

/-- The failure of a home directory that nobody has. -/
def homeless (path : Text) : Failure :=
  ((Path.parts path).head?.bind nameFault?).getD
    (.fault (.foreign "RuntimeError" "Could not determine home directory."))

/-- A store root of a file: it starts at a home directory, at the root, or at the
directory of the file. -/
def rootFrom (base : Text) (homes : Path.Homes) (d : Data) : Except Failure Text :=
  match d with
  | .text t =>
    match Path.expandHome homes t with
    | some p => .ok (Path.join base p)
    | none => .error (homeless t)
  | d => .error (.fault (.foreign "TypeError" ("a path cannot be made from " ++ d.kind)))

/-- The fields that a file sets, given what it holds and the directory it lies in. -/
def flatten (base : Text) (homes : Path.Homes) (payload : Data) : Except Failure Intake.Fields :=
  match payload with
  | .dict sections => do
    let flat ← addSections [] sections
    match valueAt? flat "store_root" with
    | none => pure flat
    | some d => pure (setEntry flat (.text "store_root") (.text (← rootFrom base homes d)))
  | d => .error (lacking "items" d)

/-- What a file holds. -/
def readToml (stack : Toml.Stack) (path : Text) (bytes : Bytes) : Except Failure Data :=
  match Text.ofUtf8 bytes with
  | .error f => .error (.fault (.undecodable f))
  | .ok t =>
    if stack.exhausted t then .error (.fault .tooDeep)
    else match Toml.read t with
      | .ok table => .ok (.dict table)
      | .error .invalid => fail (.invalidToml path "the document breaks off")
      | .error .longInteger => .error (.fault .longInteger)

/-- What the file of a path holds; without a file it holds nothing, unless the file
must be there. -/
def loadFile (s : Surroundings) (path : Text) (isRequired : Bool) : Except Failure Data :=
  match s.find path with
  | .ok (.file bytes) => readToml s.stack path bytes
  | .ok .folder => fail (.fileUnreadable path (DiskFault.folder.message path))
  | .error .longName => .error (.fault (.disk .longName path))
  | .error _ => if isRequired then fail (.fileMissing path) else .ok (.dict [])

/-- The path of the file to read. -/
def filePath (s : Surroundings) (path : Option Text) : Except Failure Text :=
  match path with
  | none => .ok (Path.join s.directory defaultFile)
  | some p =>
    match Path.expandHome s.homes p, nameFault? p with
    | none, _ => .error (homeless p)
    | some _, some f => .error f
    | some p, none => .ok (Path.resolve s.directory p)

/-- The fields from the file. -/
def fromFile (s : Surroundings) (path : Option Text) : Except Failure Intake.Fields := do
  let file ← filePath s path
  flatten (Path.parent file) s.homes (← loadFile s file path.isSome)

/-! ## The environment -/

/-- The name of the variable for a field. -/
def variableOf (field : Text) : Text := "PROOFGUARD_" ++ field.map Text.upper

/-- Integers between commas; empty places do not count. -/
def wordsOf? (raw : Text) : Option (List Int) :=
  ((Text.splitOn 44 raw).filter fun p => !p.strip.isEmpty).mapM Number.typedInt?

/-- The words of a digest from the value of a variable. -/
def wordsFrom (name : Text) (raw : Data) : Except Failure Data :=
  match raw with
  | .text t =>
    match wordsOf? t with
    | some xs => .ok (.tuple (xs.map .int))
    | none => fail (.notIntegers name)
  | .bytes _ =>
    .error (.fault (.foreign "TypeError" "a bytes-like object is required, not 'str'"))
  | d => .error (lacking "split" d)

/-- The truth value that the value of a variable names. -/
def truthFrom (raw : Data) : Except Failure Data :=
  match raw with
  | .text t =>
    match Intake.boolOfWord? t.strip with
    | some b => .ok (.bool b)
    | none => fail (.notBoolean t.quoted)
  | .bytes _ => fail (.notBoolean raw.display)
  | d => .error (lacking "strip" d)

/-- The value of a variable as the value of a field. -/
def fromVariable (field : Text) (raw : Data) : Except Failure Data :=
  if field = "block_commitment" ∨ field = "nonce" then wordsFrom (variableOf field) raw
  else if field = "fail_on_regression" then truthFrom raw
  else .ok raw

/-- The fields from the environment, in the order of the fields. -/
def fromEnvironment (s : Surroundings) : List Text → Except Failure Intake.Fields
  | [] => .ok []
  | field :: rest =>
    match s.variable? (variableOf field) with
    | none => fromEnvironment s rest
    | some raw => do
      let v ← fromVariable field raw
      pure ((.text field, v) :: (← fromEnvironment s rest))

/-! ## All sources -/

/-- Lays fields over others. -/
def overlay (below above : Intake.Fields) : Intake.Fields :=
  above.foldl (fun fields e => setEntry fields e.1 e.2) below

/-- The fields that a command line gives. -/
def given (overrides : Intake.Fields) : Intake.Fields := overrides.filter fun e => isGiven e.2

/-- The fields from all sources. -/
def gather (s : Surroundings) (path : Option Text) (overrides : Intake.Fields) :
    Except Failure Intake.Fields := do
  let file ← fromFile s path
  let environment ← fromEnvironment s fieldNames
  pure (overlay (overlay file environment) (given overrides))

/-- A configuration from fields, when it describes a valid input too. -/
def settle (fields : Intake.Fields) : Except Refusal Config := do
  let c ← build fields
  let _ ← c.proveInput
  pure c

/-- The effective configuration. -/
def load (s : Surroundings) (path : Option Text) (overrides : Intake.Fields) :
    Except Failure Config := do
  let fields ← Failure.named (← gather s path overrides)
  (settle fields).mapError .ofInvalidConfig

end ProofLedger.Config
