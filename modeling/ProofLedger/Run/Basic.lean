import ProofLedger.Failure
import ProofLedger.Log
import ProofLedger.Run.State
import ProofLedger.Store.Directory

/-!
# Runs

What can be seen of one run: where it is and has been, what it produced,
and the failure that ended it if one did. `advance` moves a run on, and
`abort` ends it.
-/

namespace ProofLedger

/-- The visible outcome of a run. -/
structure Run where
  slot : Slot
  state : RunState
  /-- Every state the run has been in, in order. -/
  states : List RunState
  record : Option ProofRecord
  verification : Option VerificationResult
  comparison : Option ComparisonReport
  comparisonSkipped : Bool
  baselinePromoted : Bool
  failure : Option Failure
  deriving Repr

namespace Run

/-- A run that has not begun. -/
def start (slot : Slot) : Run :=
  ⟨slot, .idle, [.idle], none, none, none, false, false, none⟩

/-- Whether the run has come to its end. -/
def isDone (r : Run) : Bool := r.state == .done

def stepLine (source target : RunState) : LogLine :=
  ⟨.info, .pipeline, "pipeline " ++ source.text ++ " -> " ++ target.text⟩

/-- A move that is not allowed. -/
def illegal (source target : RunState) : Failure := .fault (.transition source.text target.text)

/-- The run in another state, with the line to report, when it may go there. -/
def advance (r : Run) (target : RunState) : Except Failure (Run × LogLine) :=
  if r.state.mayGo target then
    .ok ({ r with state := target, states := r.states ++ [target] }, stepLine r.state target)
  else .error (illegal r.state target)

def abortLine (source : RunState) (f : Failure) : LogLine :=
  ⟨.error, .pipeline, "pipeline aborted in " ++ source.text ++ ": " ++ f.text⟩

/-- What is left of a run that a failure ends: the run, the lines to report, and
the failure of the move itself when the run had ended before. A run is not ended by
a failure that has no text; what comes of asking for one is then the failure. -/
def abort (r : Run) (f : Failure) : Run × List LogLine × Except Failure Unit :=
  match f.mute? with
  | some asked => (r, [], .error asked)
  | none =>
    let failed := { r with failure := some f }
    match failed.advance .aborted with
    | .ok (ended, line) => (ended, [abortLine r.state f, line], .ok ())
    | .error e => (failed, [abortLine r.state f], .error e)

/-- A value, or null. -/
def orNull {α : Type} (toData : α → Data) (a : Option α) : Data := (a.map toData).getD .null

/-- The run as a report for machines. -/
def toData (r : Run) : Data :=
  .dict [(("slot" : Text), .text r.slot.text), (("state" : Text), .text r.state.text),
    (("states" : Text), .list (r.states.map fun s => .text s.text)),
    (("record" : Text), orNull ProofRecord.toData r.record),
    (("verification" : Text), orNull VerificationResult.toData r.verification),
    (("comparison" : Text), orNull ComparisonReport.toData r.comparison),
    (("comparison_skipped" : Text), .bool r.comparisonSkipped),
    (("baseline_promoted" : Text), .bool r.baselinePromoted),
    (("error" : Text), orNull Failure.toData r.failure)]

end Run

end ProofLedger
