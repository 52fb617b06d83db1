import ProofLedger.Text.Basic

/-!
# The states of a run

A run goes from idle to done through four states in between, one at a
time, or ends aborted from wherever it is. The two ends have no
successors.
-/

namespace ProofLedger

/-- Where a run is. -/
inductive RunState where
  | idle
  | capturing
  | persisted
  | verifying
  | comparing
  | done
  | aborted
  deriving DecidableEq, Repr

namespace RunState

def text : RunState → Text
  | .idle => "IDLE"
  | .capturing => "CAPTURING"
  | .persisted => "PERSISTED"
  | .verifying => "VERIFYING"
  | .comparing => "COMPARING"
  | .done => "DONE"
  | .aborted => "ABORTED"

/-- Every state. -/
def all : List RunState := [.idle, .capturing, .persisted, .verifying, .comparing, .done, .aborted]

/-- The state of a name. -/
def ofText? (t : Text) : Option RunState := all.find? fun s => s.text == t

/-- The state after a state, when all goes well. -/
def next? : RunState → Option RunState
  | .idle => some .capturing
  | .capturing => some .persisted
  | .persisted => some .verifying
  | .verifying => some .comparing
  | .comparing => some .done
  | .done | .aborted => none

/-- Whether a run may go from one state to another. -/
def mayGo (source target : RunState) : Bool :=
  match source.next? with
  | none => false
  | some s => target == s || target == .aborted

end RunState

end ProofLedger
