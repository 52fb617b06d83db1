import ProofLedger.Comparison
import ProofLedger.Disk.Path
import ProofLedger.Factory

/-!
# Configurations

What a command needs to know beforehand: where the store is, the
threshold of comparisons, which prover and oracle to use, the input to
prove, and what to log. `Config.ofFields` checks a configuration; the
input is checked again by itself when it is used (`Config.proveInput`).
-/

namespace ProofLedger

/-- An effective configuration. -/
structure Config where
  storeRoot : Text
  threshold : Double
  failOnRegression : Bool
  engine : Text
  oracle : Text
  length : Nat
  blockCommitment : List Int
  nonce : List Int
  testName : Text
  logLevel : Text
  deriving DecidableEq, Repr

namespace Config

/-- The configuration to use when nothing is configured. -/
def default : Config where
  storeRoot := ".proofguard"
  threshold := .one
  failOnRegression := false
  engine := Factory.referenceEngine
  oracle := Factory.referenceOracle
  length := 2
  blockCommitment := [1, 1, 1, 1, 1]
  nonce := [1, 1, 1, 1, 1]
  testName := "baseline_small"
  logLevel := "WARNING"

/-- The names of the fields, in order. -/
def fieldNames : List Text :=
  ["store_root", "threshold_percent", "fail_on_regression", "engine", "oracle", "length",
    "block_commitment", "nonce", "test_name", "log_level"]

/-- A path in normal form. -/
def checkPath (d : Data) : Checked Text :=
  match d with
  | .text t => .ok (Path.normal t)
  | _ => .fail .notPath d

/-- The integers of a list. -/
def checkWords (d : Data) : Checked (List Int) := Intake.sequence .notTuple Intake.int d

/-- A code point in upper case, for those whose upper case is an ASCII letter. -/
def upper (c : Nat) : Nat :=
  if c = 0x131 then 73 else if c = 0x17F then 83 else Text.upper c

/-- The names of log levels. -/
def levelNames : List Text :=
  ["CRITICAL", "FATAL", "ERROR", "WARN", "WARNING", "INFO", "DEBUG", "NOTSET"]

def unknownLevelMessage (t : Text) : Text := "Unknown log level '" ++ t ++ "'"

/-- The name of a log level, in any case. -/
def checkLevel (d : Data) : Checked Text := do
  let t ← Intake.text d
  let level := t.map upper
  if levelNames.contains level then .ok level else .fail (.rule (unknownLevelMessage t)) d

/-- Checks every field. -/
def ofFields (fields : Intake.Fields) : Checked Config :=
  let heads := ((Intake.optional fields "store_root" default.storeRoot checkPath).both
    (Intake.optional fields "threshold_percent" default.threshold Intake.positive)).both
    (Intake.optional fields "fail_on_regression" default.failOnRegression Intake.bool)
  let middle := ((Intake.optional fields "engine" default.engine Intake.text).both
    (Intake.optional fields "oracle" default.oracle Intake.text)).both
    (Intake.optional fields "length" default.length Intake.nat)
  let tails := ((Intake.optional fields "block_commitment" default.blockCommitment checkWords).both
    (Intake.optional fields "nonce" default.nonce checkWords)).both
    ((Intake.optional fields "test_name" default.testName Intake.text).both
      (Intake.optional fields "log_level" default.logLevel checkLevel))
  (Intake.closed fields fieldNames ((heads.both middle).both tails)).map fun p =>
    { storeRoot := p.1.1.1.1, threshold := p.1.1.1.2, failOnRegression := p.1.1.2
      engine := p.1.2.1.1, oracle := p.1.2.1.2, length := p.1.2.2
      blockCommitment := p.2.1.1, nonce := p.2.1.2, testName := p.2.2.1, logLevel := p.2.2.2 }

def modelName : Text := "PipelineConfig"

/-- A configuration from fields given one by one. -/
def build (fields : Intake.Fields) : Except Refusal Config :=
  (ofFields fields).mapError (⟨modelName, ·⟩)

/-- The input to prove. -/
def proveInput (c : Config) : Except Refusal ProveInput :=
  ProveInput.build
    [(("length" : Text), .int c.length),
      (("block_commitment" : Text), .tuple (c.blockCommitment.map .int)),
      (("nonce" : Text), .tuple (c.nonce.map .int))]

/-- The fields as entries. -/
def toData (c : Config) : Data :=
  .dict [(("store_root" : Text), .text c.storeRoot),
    (("threshold_percent" : Text), .double c.threshold),
    (("fail_on_regression" : Text), .bool c.failOnRegression), (("engine" : Text), .text c.engine),
    (("oracle" : Text), .text c.oracle), (("length" : Text), .int c.length),
    (("block_commitment" : Text), .list (c.blockCommitment.map .int)),
    (("nonce" : Text), .list (c.nonce.map .int)), (("test_name" : Text), .text c.testName),
    (("log_level" : Text), .text c.logLevel)]

end Config

end ProofLedger
