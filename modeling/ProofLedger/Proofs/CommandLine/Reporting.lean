import ProofLedger.CommandLine.Execute
import ProofLedger.Proofs.Run.Printing
import ProofLedger.Proofs.Run.Quiet

/-!
# What a command says of a run, and the status it ends with

Once a run is over a command has nothing left to do but to speak: `OnlySpeaks` is said of the
report on a run (`onlySpeaks_reportRun`) and of the apology of a command that failed
(`concluding_spec`), which leave the store as the run has left it. What is left is the exit status.
It is that of the run when the run came to its end and its report can be printed
(`status_of_done`), and that of a failure otherwise (`status_of_raised`).
-/

namespace ProofLedger.CommandLine

open Act Pipeline

/-! ## Speaking -/

/-- A command that only speaks does nothing to the store and does not read the clock. -/
def OnlySpeaks {α : Type} (a : Act α) : Prop := ∀ w, Later 0 w (a w).2

section Speaking

variable {α β : Type}

theorem OnlySpeaks.bind {a : Act α} {f : α → Act β} (ha : OnlySpeaks a)
    (hf : ∀ x, OnlySpeaks (f x)) : OnlySpeaks (a >>= f) := by
  intro w
  have hlater := ha w
  rcases h : a w with ⟨x | x, w'⟩
  · rw [bind_eq_of_error h]
    rwa [h] at hlater
  · rw [bind_eq_of_ok h]
    rw [h] at hlater
    exact hlater.trans (hf x w')

theorem onlySpeaks_lift (e : Except Failure α) : OnlySpeaks (lift e) := fun _ => ⟨rfl, rfl, rfl⟩

theorem onlySpeaks_pure (x : α) : OnlySpeaks (pure x : Act α) := onlySpeaks_lift (.ok x)

theorem onlySpeaks_print (t : Text) : OnlySpeaks (print t) := fun _ => ⟨rfl, rfl, rfl⟩

theorem onlySpeaks_say (lines : List Text) : OnlySpeaks (Act.say lines) := fun _ => ⟨rfl, rfl, rfl⟩

end Speaking

/-! ## The end of a command -/

/-- The exit status that a command ends with. -/
def exitStatus : Except Failure Nat → Nat
  | .ok status => status
  | .error _ => 1

/-- A command with an apology if it fails. -/
def concluding (a : Act Nat) : Act Nat := do
  match ← a.attempt with
  | .ok status => pure status
  | .error f => apologize f

theorem onlySpeaks_apologize (f : Failure) : OnlySpeaks (apologize f) := by
  cases f with
  | ledger e =>
    exact .bind (onlySpeaks_lift _) fun _ => .bind (onlySpeaks_print _) fun _ =>
      .bind (onlySpeaks_say _) fun _ => onlySpeaks_pure 1
  | mute label asked => exact onlySpeaks_lift (.error asked)
  | _ => exact .bind (onlySpeaks_say _) fun _ => onlySpeaks_pure 1

/-- An apology that cannot be printed leaves the status of a failure all the same. -/
theorem exitStatus_apologize (f : Failure) (w : World) : exitStatus (apologize f w).1 = 1 := by
  cases f with
  | ledger e =>
    rw [apologize]
    cases lineOf e.toData with
    | error f => rfl
    | ok line => rfl
  | _ => rfl

/-- An apology changes neither the status nor the store. -/
theorem concluding_spec (a : Act Nat) (w : World) :
    exitStatus (concluding a w).1 = exitStatus (a w).1 ∧ Later 0 (a w).2 (concluding a w).2 := by
  rcases h : a w with ⟨f | status, w'⟩
  · have hrun : concluding a w = apologize f w' := bind_eq_of_ok (attempt_eq_of_error h)
    rw [hrun]
    exact ⟨exitStatus_apologize f w', onlySpeaks_apologize f w'⟩
  · have hrun : concluding a w = (.ok status, w') := bind_eq_of_ok (attempt_eq_of_ok h)
    rw [hrun]
    exact ⟨rfl, ⟨rfl, rfl, rfl⟩⟩

/-! ## Reporting on a run -/

theorem lineOf_eq_ok_iff {d : Data} : (∃ line, lineOf d = .ok line) ↔ d.Printable := by
  rw [Data.Printable, lineOf]
  cases d.toJson <;> simp

theorem onlySpeaks_words (m : Manner) (lines : List Text) : OnlySpeaks (m.say lines) := by
  unfold Manner.say
  split
  · exact onlySpeaks_pure _
  · exact onlySpeaks_say _

/-- Saying something never fails. -/
theorem exists_words (m : Manner) (lines : List Text) (w : World) :
    ∃ w', m.say lines w = (.ok (), w') := by
  unfold Manner.say
  split
  · exact ⟨_, rfl⟩
  · exact ⟨_, rfl⟩

/-- The report on a run in words. -/
def pageOf (o : Outcome) : Option Text :=
  some (Report.runSummary o.run.record o.run.verification o.run.comparison)

theorem reportRun_of_done {m : Manner} {c : Config} {name : Text} {o : Outcome}
    (h : o.raised = none) : reportRun m c name o = (do
      m.emit name o.run.toData (pageOf o)
      m.say (captureLines o.run)
      pure (captureStatus c o.run)) := by
  unfold reportRun
  rw [h]
  rfl

theorem reportRun_of_ledger {m : Manner} {c : Config} {name : Text} {o : Outcome} {e : LedgerError}
    (h : o.raised = some (.ledger e)) : reportRun m c name o = (do
      m.emit name o.run.toData (pageOf o)
      Act.say [errorLine e]
      pure 1) := by
  unfold reportRun
  rw [h]
  rfl

section Report

variable {m : Manner} (hdir : m.options.outputDirectory = none)
include hdir

/-- Without a folder for reports, a report is printed and that is all. -/
theorem emit_eq (name : Text) (payload : Data) (markdown : Option Text) :
    m.emit name payload markdown = lift (lineOf payload) >>= print := by
  unfold Manner.emit
  rw [hdir]
  rfl

/-- A report is printed when there is a document of it. -/
theorem emit_cases (name : Text) (payload : Data) (markdown : Option Text) (w : World) :
    (payload.Printable ∧ ∃ w', m.emit name payload markdown w = (.ok (), w')) ∨
      ¬payload.Printable ∧ ∃ f w', m.emit name payload markdown w = (.error f, w') := by
  rw [emit_eq hdir, ← lineOf_eq_ok_iff]
  cases lineOf payload with
  | error f => exact .inr ⟨nofun, f, w, bind_eq_of_error rfl⟩
  | ok line => exact .inl ⟨⟨line, rfl⟩, _, bind_eq_of_ok rfl⟩

variable (c : Config) (name : Text)

theorem onlySpeaks_reportRun (o : Outcome) : OnlySpeaks (reportRun m c name o) := by
  have hemit : OnlySpeaks (m.emit name o.run.toData (pageOf o)) := by
    rw [emit_eq hdir]
    exact .bind (onlySpeaks_lift _) onlySpeaks_print
  unfold reportRun
  split
  · exact .bind hemit fun _ => .bind (onlySpeaks_words m _) fun _ => onlySpeaks_pure _
  · exact .bind hemit fun _ => .bind (onlySpeaks_say _) fun _ => onlySpeaks_pure _
  · exact onlySpeaks_lift _

/-- A run that came to its end has the status of a capture when its report can be printed. -/
theorem status_of_done {o : Outcome} (hraised : o.raised = none) (w : World) :
    (o.run.toData.Printable ∧ exitStatus (reportRun m c name o w).1 = captureStatus c o.run) ∨
      ¬o.run.toData.Printable ∧ exitStatus (reportRun m c name o w).1 = 1 := by
  rw [reportRun_of_done hraised]
  refine (emit_cases hdir name o.run.toData (pageOf o) w).imp ?_ ?_
  · rintro ⟨hprintable, w', hemit⟩
    obtain ⟨w'', hsay⟩ := exists_words m (captureLines o.run) w'
    rw [bind_eq_of_ok hemit, bind_eq_of_ok hsay]
    exact ⟨hprintable, rfl⟩
  · rintro ⟨hunprintable, f, w', hemit⟩
    rw [bind_eq_of_error hemit]
    exact ⟨hunprintable, rfl⟩

/-- A run that a failure has ended has the status of a failure. -/
theorem status_of_raised {o : Outcome} {f : Failure} (hraised : o.raised = some f) (w : World) :
    exitStatus (reportRun m c name o w).1 = 1 := by
  cases f with
  | ledger e =>
    rw [reportRun_of_ledger hraised]
    rcases emit_cases hdir name o.run.toData (pageOf o) w with ⟨-, w', hemit⟩ | ⟨-, f, w', hemit⟩
    · rw [bind_eq_of_ok hemit]
      rfl
    · rw [bind_eq_of_error hemit]
      rfl
  | _ =>
    unfold reportRun
    rw [hraised]
    rfl

end Report

end ProofLedger.CommandLine
