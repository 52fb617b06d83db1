import ProofLedger.CommandLine.Arguments
import ProofLedger.Config.Sources
import ProofLedger.Store.Directory

/-!
# Requests

What can be asked for on the command line: one of eight commands, each
with options of its own, and options that every command takes.
`Request.read` makes a request of the words of a command line; words that
nobody wants are refused after everything else has been understood.
-/

namespace ProofLedger.CommandLine

/-- Options that say how to work; those on the input are for captures only. -/
structure Options where
  config : Option (Given Text)
  store : Option (Given Text)
  threshold : Option (Given Double)
  logLevel : Option (Given Text)
  outputDirectory : Option (Given Text)
  failOnRegression : Bool
  isQuiet : Bool
  length : Option (Given Int)
  blockCommitment : Option (Given (List Int))
  nonce : Option (Given (List Int))
  testName : Option (Given Text)
  deriving DecidableEq, Repr

def Options.none : Options :=
  ⟨.none, .none, .none, .none, .none, false, false, .none, .none, .none, .none⟩

/-- What is to be done. -/
inductive Command where
  | captureBaseline (label : Given Text) (accept : Bool)
  | captureCandidate (label : Given Text)
  | verify (id : Text)
  | compare (baseline candidate : Option Text)
  | list (slot : Given Slot)
  | showRecord (id : Text)
  | promote (id : Text)
  | prune (days : Given Double) (keepBaseline : Bool)
  deriving DecidableEq, Repr

/-- The name of a command. -/
def Command.name : Command → Text
  | .captureBaseline .. => "capture-baseline"
  | .captureCandidate _ => "capture-candidate"
  | .verify _ => "verify"
  | .compare .. => "compare"
  | .list _ => "list"
  | .showRecord _ => "show"
  | .promote _ => "promote"
  | .prune .. => "prune"

/-- A command and how to carry it out. -/
structure Request where
  options : Options
  command : Command
  deriving DecidableEq, Repr

/-- The names of all commands. -/
def commandNames : List Text :=
  ["capture-baseline", "capture-candidate", "verify", "compare", "list", "show", "promote", "prune"]

/-- The name of the program. -/
def program : Text := "proofguard"

/-! ## Values -/

/-- An integer. -/
def intOf (raw : Text) : Except Text Int :=
  match Number.typedInt? raw with
  | some n => .ok n
  | none => .error ("invalid int value: " ++ raw.quoted)

/-- Integers between commas. -/
def wordsOf (raw : Text) : Except Text (List Int) :=
  match Config.wordsOf? raw with
  | some ns => .ok ns
  | none => .error ("expected comma-separated integers, got " ++ raw.quoted)

/-- A number. -/
def numberOf (raw : Text) : Except Text Double :=
  match Number.typedDouble? raw with
  | some d => .ok d
  | none => .error ("expected a number, got " ++ raw.quoted)

/-- A number that is not zero or less. -/
def positiveOf (raw : Text) : Except Text Double := do
  let d ← numberOf raw
  if d.le .zero then .error ("must be positive, got " ++ raw) else .ok d

/-- A number that is not less than zero. -/
def nonNegativeOf (raw : Text) : Except Text Double := do
  let d ← numberOf raw
  if d.lt .zero then .error ("must not be negative, got " ++ raw) else .ok d

/-- A slot by its name. -/
def slotOf (raw : Text) : Except Text Slot :=
  if raw = "history" then .ok .history
  else if raw = "baseline" then .ok .baseline
  else .error ("invalid choice: " ++ raw.quoted ++ " (choose from 'history', 'baseline')")

/-! ## Options -/

/-- What is collected for a command: the options, and what only this command has. -/
abbrev Settings (α : Type) := Options × α

section Flags

variable {α : Type}

/-- An option that takes a value. -/
def valued {β : Type} (name : Text) (read : Text → Except Text β)
    (set : Given β → Settings α → Settings α) : Flag (Settings α) :=
  ⟨[name], .value fun raw s => (Given.read read raw).map fun v => set v s, false⟩

/-- An option that takes none. -/
def switched (name : Text) (set : Settings α → Settings α) : Flag (Settings α) :=
  ⟨[name], .switch set, false⟩

/-- Changes the options and leaves the rest. -/
def onOptions (change : Options → Options) (s : Settings α) : Settings α := (change s.1, s.2)

/-- Changes the rest and leaves the options. -/
def onOwn (change : α → α) (s : Settings α) : Settings α := (s.1, change s.2)

def helpFlag : Flag (Settings α) := ⟨["-h", "--help"], .help, false⟩

/-- The options of every command. -/
def commonFlags : List (Flag (Settings α)) :=
  [helpFlag,
    valued "--config" .ok fun v => onOptions ({ · with config := some v }),
    valued "--store" .ok fun v => onOptions ({ · with store := some v }),
    valued "--threshold" positiveOf fun v => onOptions ({ · with threshold := some v }),
    valued "--log-level" .ok fun v => onOptions ({ · with logLevel := some v }),
    valued "--output-dir" .ok fun v => onOptions ({ · with outputDirectory := some v }),
    switched "--fail-on-regression" (onOptions ({ · with failOnRegression := true })),
    switched "--quiet" (onOptions ({ · with isQuiet := true }))]

/-- The options that describe the input of a capture. -/
def inputFlags : List (Flag (Settings α)) :=
  [valued "--length" intOf fun v => onOptions ({ · with length := some v }),
    valued "--block-commitment" wordsOf fun v => onOptions ({ · with blockCommitment := some v }),
    valued "--nonce" wordsOf fun v => onOptions ({ · with nonce := some v }),
    valued "--test-name" .ok fun v => onOptions ({ · with testName := some v })]

end Flags

/-! ## The commands -/

/-- What a command understands. -/
def grammarOf {α : Type} (name : Text) (own : List (Flag (Settings α)))
    (operands : List (Operand (Settings α))) : Grammar (Settings α) :=
  ⟨program ++ 32 :: name, commonFlags ++ own, operands⟩

/-- A request and the words that its command does not want. -/
abbrev Understood := Request × List Text

/-- Reads the words of a command. -/
def readWith {α : Type} (g : Grammar (Settings α)) (own : α) (command : α → Command)
    (words : List Text) : Except Stop Understood := do
  let (s, extras) ← g.read (Options.none, own) words
  pure (⟨s.1, command s.2⟩, extras)

/-- The operand that names a record. -/
def recordOperand : Operand (Settings Text) := .one "record_id" fun t => onOwn fun _ => t

/-- A command on one record. -/
def readRecordCommand (name : Text) (command : Text → Command) :
    List Text → Except Stop Understood :=
  readWith (grammarOf name [] [recordOperand]) [] command

/-- The label of a capture for the baseline, when none is given. -/
def defaultBaselineLabel : Text := "master"

/-- The label of any other capture, when none is given. -/
def defaultCandidateLabel : Text := "candidate"

def readCaptureBaseline : List Text → Except Stop Understood :=
  readWith
    (grammarOf "capture-baseline"
      (inputFlags ++
        [valued "--label" .ok fun v => onOwn fun own => (v, own.2),
          switched "--accept-hash-change" (onOwn fun own => (own.1, true))])
      [])
    (.value defaultBaselineLabel, false) fun own => .captureBaseline own.1 own.2

def readCaptureCandidate : List Text → Except Stop Understood :=
  readWith
    (grammarOf "capture-candidate"
      (inputFlags ++ [valued "--label" .ok fun v => onOwn fun _ => v]) [])
    (.value defaultCandidateLabel) .captureCandidate

def readCompare : List Text → Except Stop Understood :=
  readWith
    (grammarOf "compare" []
      [.optional fun t => onOwn fun own => (some t, own.2),
        .optional fun t => onOwn fun own => (own.1, some t)])
    (none, none) fun own => .compare own.1 own.2

def readList : List Text → Except Stop Understood :=
  readWith (grammarOf "list" [valued "--slot" slotOf fun v => onOwn fun _ => v] [])
    (.value Slot.history) .list

/-- The option without which nothing is pruned. -/
def ageFlag : Flag (Settings (Given Double × Bool)) :=
  { valued "--older-than-days" nonNegativeOf fun v => onOwn fun own => (v, own.2) with
    isRequired := true }

def readPrune : List Text → Except Stop Understood :=
  readWith
    (grammarOf "prune"
      [ageFlag, switched "--include-baseline" (onOwn fun own => (own.1, false))] [])
    (.value .zero, true) fun own => .prune own.1 own.2

/-- What is said of a word that names no command. -/
def unknownCommand (word : Text) : Stop :=
  .usage program ("argument command: invalid choice: " ++ word.quoted ++ " (choose from " ++
    Text.join ", " (commandNames.map Text.quoted) ++ ")")

/-- Reads the words of the command that the first word names. -/
def readCommand (name : Text) (words : List Text) : Except Stop Understood :=
  if name = "capture-baseline" then readCaptureBaseline words
  else if name = "capture-candidate" then readCaptureCandidate words
  else if name = "verify" then readRecordCommand name .verify words
  else if name = "compare" then readCompare words
  else if name = "list" then readList words
  else if name = "show" then readRecordCommand name .showRecord words
  else if name = "promote" then readRecordCommand name .promote words
  else if name = "prune" then readPrune words
  else .error (unknownCommand name)

/-! ## The command line -/

/-- What the program itself understands: a command, and everything after it. -/
def mainGrammar : Grammar (Option Understood) where
  program := program
  flags := [⟨["-h", "--help"], .help, false⟩, ⟨["--version"], .version, false⟩]
  operands :=
    [.rest fun words _ =>
      match words with
      | [] => .ok none
      | name :: rest => (readCommand name rest).map some]

/-- What is said of words that nobody wants. -/
def unwanted (words : List Text) : Stop :=
  .usage program ("unrecognized arguments: " ++ Text.join [32] words)

/-- The request that words describe; none when they name no command. -/
def Request.read (words : List Text) : Except Stop (Option Request) := do
  let (understood, extras) ← mainGrammar.read none words
  match extras ++ (understood.map (·.2)).getD [] with
  | [] => pure (understood.map (·.1))
  | extras => .error (unwanted extras)

end ProofLedger.CommandLine
