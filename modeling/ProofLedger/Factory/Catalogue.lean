import ProofLedger.Factory.Make

/-!
# What factory paths lead through

The modules that a factory path can name, and what they hold: one module
holds the two makes, all of them hold values that cannot be called, and a
package holds the modules inside it. `Module.member?` follows a path from
a module, through the modules inside it, to what it holds.
-/

namespace ProofLedger.Factory

/-- What a module holds under a name. -/
inductive Member where
  | make (m : Make)
  /-- What a make can do. It cannot be called without the arguments it needs, which the
  make itself is the first of. -/
  | operation (arguments : List Text)
  /-- A value that cannot be called. -/
  | plain
  deriving DecidableEq, Repr

/-- A module, with the names of the values it has beside the ones that all modules have;
a package has further modules inside. -/
structure Module where
  name : Text
  isPackage : Bool
  values : List Text
  deriving Repr

/-- The modules that a path can lead through. -/
def modules : List Module :=
  [⟨"proofguard", true, ["__version__", "__all__"]⟩,
    ⟨"proofguard.api", false,
      ["DEFAULT_BASELINE_LABEL", "DEFAULT_CANDIDATE_LABEL", "DEFAULT_THRESHOLD_PERCENT", "os"]⟩,
    ⟨"proofguard.cli", false, ["EXIT_FAILED", "EXIT_OK", "EXIT_USAGE", "argparse", "sys"]⟩,
    ⟨"proofguard.codes", false, []⟩,
    ⟨"proofguard.config", false,
      ["DEFAULT_CONFIG_FILE", "DEFAULT_THRESHOLD_PERCENT", "ENV_PREFIX", "REFERENCE_ENGINE",
        "REFERENCE_ORACLE", "logging", "os", "tomllib"]⟩,
    ⟨"proofguard.contracts", false, []⟩,
    ⟨"proofguard.errors", false, ["TYPE_CHECKING"]⟩,
    ⟨"proofguard.pipeline", false, ["DEFAULT_THRESHOLD_PERCENT", "logger", "logging", "time"]⟩,
    ⟨"proofguard.engines", true, ["REFERENCE_ENGINE", "REFERENCE_ORACLE", "importlib"]⟩,
    ⟨"proofguard.engines.reference", false, ["MERKLE_ROOTS", "hashlib", "struct"]⟩,
    ⟨"proofguard.kernel", true, []⟩,
    ⟨"proofguard.kernel.capture", false, ["logger", "logging", "time"]⟩,
    ⟨"proofguard.kernel.compare", false, ["DEFAULT_THRESHOLD_PERCENT"]⟩,
    ⟨"proofguard.kernel.hash_utils", false, ["hashlib", "json", "unicodedata"]⟩,
    ⟨"proofguard.kernel.record", false, ["DIGEST_WORDS", "WORD_MAX", "re"]⟩,
    ⟨"proofguard.kernel.shape", false, []⟩,
    ⟨"proofguard.kernel.store", false,
      ["BASELINE_POINTER", "HISTORY_INDEX", "LOCK_FILE", "RECORDS_DIR", "json", "logger", "logging",
        "os", "re", "tempfile", "threading"]⟩,
    ⟨"proofguard.kernel.verify", false,
      ["METHOD_ORACLE", "METHOD_PRECHECK", "logger", "logging", "time"]⟩,
    ⟨"proofguard._internal", true, []⟩,
    ⟨"proofguard._internal.canonical_json", false, ["json"]⟩,
    ⟨"proofguard._internal.log", false, ["LOGGER_NAME", "LOG_FORMAT", "logging", "sys"]⟩,
    ⟨"proofguard._internal.reporting", false, []⟩,
    ⟨"proofguard._internal.io", true, []⟩,
    ⟨"proofguard._internal.io.record_io", false,
      ["RECORD_FORMAT", "RECORD_FORMAT_VERSION", "json"]⟩]

/-- The values that every module has. -/
def commonValues : List Text :=
  ["__annotations__", "__builtins__", "__cached__", "__dict__", "__doc__", "__file__", "__loader__",
    "__name__", "__package__", "__spec__"]

/-- The name of the module that holds the makes. -/
def home : Text := "proofguard.engines.reference"

/-- The values that a make has. -/
def makeValues : List Text :=
  ["name", "__annotations__", "__bases__", "__basicsize__", "__dict__", "__dictoffset__", "__doc__",
    "__flags__", "__itemsize__", "__module__", "__mro__", "__name__", "__qualname__", "__weakref__",
    "__weakrefoffset__"]

/-- What a make can do, with the arguments that it needs. -/
def operations : Make → List (Text × List Text)
  | .referenceEngine =>
    [("prove", ["self", "length", "block_commitment", "nonce"]),
      ("expected_shape", ["self", "length"]), ("hash_proof", ["self", "input", "proof_objects"])]
  | .referenceOracle =>
    [("verify", ["self", "length", "block_commitment", "nonce", "proof_objects"]),
      ("expected_shape", ["self", "length"]), ("hash_proof", ["self", "input", "proof_objects"])]

/-- What a make holds under a name. -/
def heldBy (m : Make) (name : Text) : Option Member :=
  if makeValues.contains name then some .plain
  else ((operations m).find? fun e => e.1 == name).map fun e => .operation e.2

/-- What is to be found at the names after a make. -/
def makeMember? : List Text → Option Member
  | [] => none
  | make :: rest =>
    match [Make.referenceEngine, .referenceOracle].find? fun m => m.label == make, rest with
    | some m, [] => some (.make m)
    | some m, [name] => heldBy m name
    | _, _ => none

def module? (name : Text) : Option Module := modules.find? fun m => m.name == name

namespace Module

/-- The module of a name inside a module. -/
def inside? (m : Module) (name : Text) : Option Module := module? (m.name ++ 46 :: name)

/-- The value of a name in a module. -/
def value? (m : Module) (name : Text) : Option Member :=
  let isPath := m.isPackage && name == "__path__"
  if m.values.contains name || commonValues.contains name || isPath then some .plain else none

/-- What is in a module itself at some names. -/
def own? (m : Module) (names : List Text) : Option Member :=
  match names with
  | [name] => m.value? name <|> if m.name = home then makeMember? names else none
  | names => if m.name = home then makeMember? names else none

/-- What names lead to from a module. -/
def member? (m : Module) : List Text → Option Member
  | [] => some .plain
  | name :: rest =>
    match m.inside? name with
    | some inner => inner.member? rest
    | none => m.own? (name :: rest)

end Module

end ProofLedger.Factory
