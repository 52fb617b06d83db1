import ProofLedger.Intake.Issue

/-!
# What is wrong with a configuration

The causes for which a configuration is refused, and for which a factory
path of a prover or an oracle leads nowhere.
-/

namespace ProofLedger

/-- Why a configuration is refused. -/
inductive ConfigFault where
  | fileMissing (path : Text)
  | fileUnreadable (path reason : Text)
  | invalidToml (path reason : Text)
  | sectionNotTable (table : Text)
  | unknownKey (table key : Text)
  | notIntegers (name : Text)
  /-- A value, as it is displayed, that is no truth value. -/
  | notBoolean (shown : Text)
  | thresholdNotPositive (shown : Text)
  | invalid (refusal : Refusal)
  deriving Repr

def ConfigFault.message : ConfigFault → Text
  | .fileMissing path => "Config file not found: " ++ path
  | .fileUnreadable path reason => "Unable to read config file " ++ path ++ ": " ++ reason
  | .invalidToml path reason => "Invalid TOML in " ++ path ++ ": " ++ reason
  | .sectionNotTable name => "Config section [" ++ name ++ "] must be a table"
  | .unknownKey name key => "Unknown config key '" ++ name ++ "." ++ key ++ "'"
  | .notIntegers name => name ++ " must be comma-separated integers"
  | .notBoolean shown => "PROOFGUARD_FAIL_ON_REGRESSION must be a boolean, got " ++ shown
  | .thresholdNotPositive shown => "threshold_percent must be positive, got " ++ shown
  | .invalid refusal => "Invalid configuration: " ++ refusal.message

/-- Why a factory path leads to nothing. -/
inductive FactoryFault where
  | malformed (path : Text)
  | importFailed (moduleName reason : Text)
  | noMember (moduleName member : Text)
  | notCallable (path : Text)
  deriving DecidableEq, Repr

def FactoryFault.message : FactoryFault → Text
  | .malformed path => "Engine factory must look like 'module:attribute', got " ++ path.quoted
  | .importFailed name reason => "Cannot import engine module '" ++ name ++ "': " ++ reason
  | .noMember name member => "Module '" ++ name ++ "' has no attribute '" ++ member ++ "'"
  | .notCallable path => "Engine factory '" ++ path ++ "' is not callable"

end ProofLedger
