import ProofLedger.Text.Basic

/-!
# Log lines

What the parts of the library report while they work: a level, the part
that reports, and a message.
-/

namespace ProofLedger

inductive LogLevel where
  | debug
  | info
  | warning
  | error
  | critical
  deriving DecidableEq, Repr

namespace LogLevel

def text : LogLevel → Text
  | .debug => "DEBUG"
  | .info => "INFO"
  | .warning => "WARNING"
  | .error => "ERROR"
  | .critical => "CRITICAL"

/-- Levels ascend with urgency. -/
def rank : LogLevel → Nat
  | .debug => 10
  | .info => 20
  | .warning => 30
  | .error => 40
  | .critical => 50

/-- The least level shown under a threshold named in a configuration; a name that
sets no threshold of its own shows warnings and what is more urgent. -/
def thresholdRank (name : Text) : Nat :=
  if name = "DEBUG" then 10
  else if name = "INFO" then 20
  else if name = "ERROR" then 40
  else if name = "CRITICAL" ∨ name = "FATAL" then 50
  else 30

end LogLevel

/-- The parts of the library that write log lines. -/
inductive LogSource where
  | store
  | capture
  | verification
  | pipeline
  deriving DecidableEq, Repr

def LogSource.text : LogSource → Text
  | .store => "proofguard.kernel.store"
  | .capture => "proofguard.kernel.capture"
  | .verification => "proofguard.kernel.verify"
  | .pipeline => "proofguard.pipeline"

/-- A line of the log. -/
structure LogLine where
  level : LogLevel
  source : LogSource
  message : Text
  deriving DecidableEq, Repr

/-- Level, source and message on one line. -/
def LogLine.text (l : LogLine) : Text :=
  l.level.text ++ 32 :: (l.source.text ++ 32 :: l.message)

end ProofLedger
