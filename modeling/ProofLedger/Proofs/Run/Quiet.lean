import ProofLedger.Proofs.Store.Acts
import ProofLedger.Run.Pipeline

/-!
# Commands that only read

A command that only reads asks the store, a prover or an oracle, reads a clock or a timer, and
writes to the log. Making a record, verifying one and reading the reference of a run are put
together from these; only storing a record and moving the pointer remain. A property that passes
from the parts to the whole is therefore proved for each part alone (`Pervades`). One is to be
quiet: to leave the files of the store as they are, however the command ends (`quiet_record`,
`quiet_verify`).

`Yields` is the other half: what holds of the result when there is one.
-/

namespace ProofLedger

/-! ## Durations -/

namespace Double

theorem zero_le_max (d : Double) : zero.le (zero.max d) = true := by
  rw [max]
  split
  · next h =>
    rw [lt] at h
    rw [le]
    split at h
    · simp only [decide_eq_true_eq] at h ⊢
      omega
    · cases h
  · rfl

theorem isFinite_max {d : Double} (h : d.isFinite = true) : (zero.max d).isFinite = true := by
  rw [max]
  split
  · exact h
  · decide

end Double

namespace Act

variable {α β : Type}

/-! ## Parts and wholes -/

/-- A property that commands which only read have when their parts have it. -/
structure Pervades (P : {α : Type} → Act α → Prop) : Prop where
  bind {α β : Type} {a : Act α} {f : α → Act β} (ha : P a) (hf : ∀ x, P (f x)) : P (a >>= f)
  attempt {α : Type} {a : Act α} (ha : P a) : P a.attempt
  lift {α : Type} (e : Except Failure α) : P (lift e)
  ask {α : Type} (question : Directory → Except Failure α) : P (ask question)
  reportAll (lines : List LogLine) : P (reportAll lines)
  readClock (t : Instruments) : P (readClock t)
  readTimer (t : Instruments) : P (readTimer t)
  prove (p : Prover) (i : ProveInput) : P (prove p i)
  judge (o : Oracle) (r : ProofRecord) : P (judge o r)

namespace Pervades

variable {P : {α : Type} → Act α → Prop} (h : Pervades P)
include h

theorem pure (x : α) : P (Pure.pure x : Act α) := h.lift (.ok x)

theorem raise (f : Failure) : P (Act.raise f : Act α) := h.lift (.error f)

theorem report (level : LogLevel) (source : LogSource) (message : Text) :
    P (Act.report level source message) := h.reportAll _

theorem elapsed (t : Instruments) (started : Double) : P (Act.elapsed t started) :=
  h.bind (h.readTimer t) fun _ => h.pure _

theorem stamp (m : Moment) : P (Act.stamp m) := h.lift _

/-- The prover may answer or raise what it likes. -/
theorem record (t : Instruments) (p : Prover) (i : ProveInput) (label testName : Data) :
    P (Capture.record t p i label testName) := by
  have hprove : P (Capture.proveWith p i) := h.bind (h.prove p i) fun
    | .proved _ _ => h.pure _
    | .failed _ => h.raise _
    | .raised _ => h.raise _
  exact h.bind (h.reportAll _) fun _ => h.bind (h.readTimer t) fun _ => h.bind hprove fun (_, _) =>
    h.bind (h.elapsed t _) fun _ => h.bind (h.readClock t) fun _ => h.bind (h.lift _) fun _ =>
    h.bind (h.reportAll _) fun _ => h.pure _

theorem finish (t : Instruments) (r : ProofRecord) (started : Double)
    (method : Verification.Method) (fault : Option ErrorDetail) :
    P (Verification.finish t r started method fault) :=
  h.bind (h.elapsed t started) fun _ => h.bind (h.readClock t) fun m => h.bind (h.stamp m) fun _ =>
    h.pure _

theorem conclude (t : Instruments) (r : ProofRecord) (started : Double) (answer : JudgeAnswer) :
    P (Verification.conclude t r started answer) := by
  unfold Verification.conclude
  split
  · exact h.raise _
  · exact h.raise _
  · exact h.bind (h.report _ _ _) fun _ => h.finish t r started _ _
  · exact h.bind (h.report _ _ _) fun _ => h.finish t r started _ _

theorem verify (t : Instruments) (o : Oracle) (checks : Prechecks) (r : ProofRecord) :
    P (Verification.verify t o checks r) := by
  have hskipped : P (Verification.noteSkipped checks) := by
    unfold Verification.noteSkipped
    split
    · exact h.report _ _ _
    · exact h.pure _
  exact h.bind (h.readTimer t) fun started => h.bind hskipped fun _ => h.bind (h.lift _) fun
    | some _ => h.bind (h.report _ _ _) fun _ => h.finish t r started _ _
    | none => h.bind (h.judge o r) fun answer => h.conclude t r started answer

/-- Reading the reference of a run. -/
theorem reference (slot : Slot) : P (Pipeline.reference slot) := by
  cases slot with
  | history => exact h.bind (h.ask _) fun _ => h.pure _
  | baseline =>
    refine h.bind (h.attempt (h.ask _)) fun found => ?_
    cases found with
    | ok r => exact h.pure _
    | error f =>
      split
      · next heq => cases heq
      · exact h.pure _
      · exact h.pure _
      · exact h.raise _

end Pervades

/-! ## Quiet commands -/

/-- The files of the store are as before, however the command ends. -/
def Quiet (a : Act α) : Prop := ∀ w, (a w).2.store = w.store

theorem Quiet.bind {a : Act α} {f : α → Act β} (ha : Quiet a) (hf : ∀ x, Quiet (f x)) :
    Quiet (a >>= f) := by
  intro w
  have hstore := ha w
  rcases h : a w with ⟨x | x, w'⟩
  · rw [bind_eq_of_error h]
    rwa [h] at hstore
  · rw [bind_eq_of_ok h, hf x w']
    rwa [h] at hstore

theorem pervades_quiet : Pervades Quiet where
  bind := Quiet.bind
  attempt ha := ha
  lift _ _ := rfl
  ask _ _ := rfl
  reportAll _ _ := rfl
  readClock _ _ := rfl
  readTimer _ _ := rfl
  prove _ _ _ := rfl
  judge _ _ _ := rfl

/-! ## Reading the instruments -/

theorem readTimer_eq (t : Instruments) (w : World) : readTimer t w =
    (.ok (t.timer w.timerReads), { w with timerReads := w.timerReads + 1 }) := rfl

theorem elapsed_eq (t : Instruments) (started : Double) (w : World) : elapsed t started w =
    (.ok (Double.zero.max ((t.timer w.timerReads).sub started)),
      { w with timerReads := w.timerReads + 1 }) := rfl

theorem readClock_eq {t : Instruments} {w : World} {m : Moment}
    (h : t.clock w.clockReads = .ok m) :
    readClock t w = (.ok m, { w with clockReads := w.clockReads + 1 }) := by
  rw [readClock, h]
  rfl

/-- A later world with the same store: the clock has been read so many times in between. -/
structure Later (reads : Nat) (w w' : World) : Prop where
  store : w'.store = w.store
  storeFault : w'.storeFault = w.storeFault
  clockReads : w'.clockReads = w.clockReads + reads

theorem Later.trans {m n : Nat} {w w' w'' : World} (h : Later m w w') (h' : Later n w' w'') :
    Later (m + n) w w'' where
  store := h'.store.trans h.store
  storeFault := h'.storeFault.trans h.storeFault
  clockReads := by rw [h'.clockReads, h.clockReads, Nat.add_assoc]

/-! ## Results -/

/-- What holds of the result of a command, when it has one. -/
def Yields (a : Act α) (P : α → Prop) : Prop := ∀ w x w', a w = (.ok x, w') → P x

theorem Yields.andThen {a : Act α} {f : α → Act β} {P : α → Prop} {Q : β → Prop}
    (ha : Yields a P) (hf : ∀ x, P x → Yields (f x) Q) : Yields (a >>= f) Q := by
  intro w y w' h
  rcases hrun : a w with ⟨x | x, w₁⟩
  · rw [bind_eq_of_error hrun] at h
    cases h
  · rw [bind_eq_of_ok hrun] at h
    exact hf x (ha w x w₁ hrun) w₁ y w' h

/-- Only the second of two commands matters when nothing is known of the first. -/
theorem Yields.bind {a : Act α} {f : α → Act β} {Q : β → Prop} (hf : ∀ x, Yields (f x) Q) :
    Yields (a >>= f) Q :=
  Yields.andThen (P := fun _ => True) (fun _ _ _ _ => trivial) fun x _ => hf x

theorem yields_lift {P : α → Prop} {e : Except Failure α} (h : ∀ x, e = .ok x → P x) :
    Yields (lift e) P := by
  intro w x w' hrun
  exact h x (congrArg Prod.fst hrun)

theorem yields_pure {P : α → Prop} {x : α} (hx : P x) : Yields (pure x) P := by
  intro w y w' h
  cases h
  exact hx

theorem yields_raise {P : α → Prop} (f : Failure) : Yields (raise f) P := fun _ _ _ h => nomatch h

end Act

open Act

theorem Capture.quiet_record (t : Instruments) (p : Prover) (i : ProveInput)
    (label testName : Data) : Quiet (record t p i label testName) :=
  pervades_quiet.record t p i label testName

theorem Verification.quiet_verify (t : Instruments) (o : Oracle) (checks : Prechecks)
    (r : ProofRecord) : Quiet (verify t o checks r) := pervades_quiet.verify t o checks r

/-! ## Verifying a record -/

namespace Verification

/-- A result is about a record when it says so. -/
structure About (r : ProofRecord) (v : VerificationResult) : Prop where
  name : v.recordId = r.id.val
  hash : v.proofHash = r.proofHash.val
  objects : v.objectCount = r.objects.length

variable (t : Instruments) (o : Oracle) (checks : Prechecks) (r : ProofRecord)

theorem finish_about (started : Double) (method : Method) (fault : Option ErrorDetail) :
    Yields (finish t r started method fault) (About r) :=
  .bind fun _ => .bind fun _ => .bind fun _ => yields_pure ⟨rfl, rfl, rfl⟩

theorem conclude_about (started : Double) (answer : JudgeAnswer) :
    Yields (conclude t r started answer) (About r) := by
  unfold conclude
  split
  · exact yields_raise _
  · exact yields_raise _
  · exact .bind fun _ => finish_about t r started _ _
  · exact .bind fun _ => finish_about t r started _ _

/-- A result is about the record that was verified. -/
theorem verify_about : Yields (verify t o checks r) (About r) :=
  .bind fun started => .bind fun _ => .bind fun
    | some _ => .bind fun _ => finish_about t r started _ _
    | none => .bind fun answer => conclude_about t r started answer

end Verification

end ProofLedger
