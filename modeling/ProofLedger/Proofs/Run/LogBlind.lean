import ProofLedger.Proofs.Run.Quiet

/-!
# Blindness to the log

Commands write to the log and never read it. `LogBlind` says so of one command: in two worlds that
differ at most in their logs (`SameButLog`) it ends alike and leaves two such worlds. The parts of
commands that only read have it (`Act.pervades_logBlind`), and so do capturing a record and moving
the pointer. What a run or a batch writes between two commands therefore changes nothing that the
second does.
-/

namespace ProofLedger

/-- A world that differs from another at most in its log. -/
def SameButLog (w w' : World) : Prop := ∃ log, w' = { w with log := log }

theorem SameButLog.refl (w : World) : SameButLog w w := ⟨w.log, rfl⟩

theorem SameButLog.trans {w w' w'' : World} (h : SameButLog w w') (h' : SameButLog w' w'') :
    SameButLog w w'' := by
  obtain ⟨log, rfl⟩ := h
  obtain ⟨log', rfl⟩ := h'
  exact ⟨log', rfl⟩

theorem SameButLog.store {w w' : World} (h : SameButLog w w') : w'.store = w.store := by
  obtain ⟨log, rfl⟩ := h
  rfl

theorem SameButLog.storeFault {w w' : World} (h : SameButLog w w') :
    w'.storeFault = w.storeFault := by
  obtain ⟨log, rfl⟩ := h
  rfl

/-- What is done, and how it ends, does not depend on what the log says. -/
def LogBlind {β : Type} (f : World → β × World) : Prop :=
  ∀ w w', SameButLog w w' → (f w').1 = (f w).1 ∧ SameButLog (f w).2 (f w').2

/-- What comes of a command is the same in a world that differs at most in its log. -/
theorem LogBlind.exists_eq {β : Type} {f : World → β × World} (hf : LogBlind f) {w w' : World}
    (h : SameButLog w w') {x : β} {w₁ : World} (hrun : f w = (x, w₁)) :
    ∃ w₁', f w' = (x, w₁') ∧ SameButLog w₁ w₁' := by
  obtain ⟨hend, hsame⟩ := hf w w' h
  rw [hrun] at hend hsame
  exact ⟨(f w').2, Prod.ext hend rfl, hsame⟩

section Commands

open Act

variable {α β : Type}

theorem LogBlind.bind {a : Act α} {f : α → Act β} (ha : LogBlind a) (hf : ∀ x, LogBlind (f x)) :
    LogBlind (a >>= f) := by
  intro w w' h
  obtain ⟨hend, hsame⟩ := ha w w' h
  have hrun' : a w' = ((a w).1, (a w').2) := Prod.ext hend rfl
  rcases hrun : a w with ⟨e | x, w₁⟩
  · rw [hrun] at hrun' hsame
    rw [bind_eq_of_error hrun, bind_eq_of_error hrun']
    exact ⟨rfl, hsame⟩
  · rw [hrun] at hrun' hsame
    rw [bind_eq_of_ok hrun, bind_eq_of_ok hrun']
    exact hf x w₁ (a w').2 hsame

theorem LogBlind.always {f : StateM World α} (hf : LogBlind f) :
    LogBlind (Act.always f) := by
  intro w w' h
  obtain ⟨hend, hsame⟩ := hf w w' h
  exact ⟨congrArg Except.ok hend, hsame⟩

theorem Act.pervades_logBlind : Pervades LogBlind where
  bind := LogBlind.bind
  attempt := LogBlind.always
  lift _ _ _ h := ⟨rfl, h⟩
  ask _ := by
    rintro w _ ⟨log, rfl⟩
    exact ⟨rfl, log, rfl⟩
  reportAll _ := by
    rintro w _ ⟨log, rfl⟩
    exact ⟨rfl, _, rfl⟩
  readClock _ := by
    rintro w _ ⟨log, rfl⟩
    exact ⟨rfl, log, rfl⟩
  readTimer _ := by
    rintro w _ ⟨log, rfl⟩
    exact ⟨rfl, log, rfl⟩
  prove _ _ := by
    rintro w _ ⟨log, rfl⟩
    exact ⟨rfl, log, rfl⟩
  judge _ _ := by
    rintro w _ ⟨log, rfl⟩
    exact ⟨rfl, log, rfl⟩

theorem Act.logBlind_locking (plan : Directory → Plan α) : LogBlind (locking plan) := by
  intro w w' h
  have hstore : w'.store = w.store := h.store
  cases hlock : w.store.site.check lockName with
  | error f =>
    have hrun : ∀ {w₁ : World}, w₁.store = w.store → locking plan w₁ = (.error f, w₁) := by
      intro w₁ h₁
      simp only [locking, h₁, hlock]
    rw [hrun rfl, hrun hstore]
    exact ⟨rfl, h⟩
  | ok u =>
    have hrun : ∀ {w₁ : World}, w₁.store = w.store →
        locking plan w₁ = carryOut plan { w₁ with locked := true } := by
      intro w₁ h₁
      simp only [locking, h₁, hlock]
    rw [hrun rfl, hrun hstore]
    obtain ⟨log, rfl⟩ := h
    exact ⟨rfl, _, rfl⟩

theorem Act.logBlind_storing (slot : Data) (plan : Slot → Directory → Plan α) :
    LogBlind (storing slot plan) := by
  intro w w' h
  have hsame : w'.storeFault = w.storeFault := h.storeFault
  cases hfault : w.storeFault with
  | some f =>
    have hrun : ∀ {w₁ : World}, w₁.storeFault = some f → storing slot plan w₁ = (.error f, w₁) := by
      intro w₁ h₁
      simp only [storing, h₁]
    rw [hrun hfault, hrun (hsame.trans hfault)]
    exact ⟨rfl, h⟩
  | none =>
    cases hslot : Slot.parse slot with
    | error f =>
      have hrun : ∀ {w₁ : World}, w₁.storeFault = none → storing slot plan w₁ = (.error f, w₁) := by
        intro w₁ h₁
        simp only [storing, h₁, hslot]
      rw [hrun hfault, hrun (hsame.trans hfault)]
      exact ⟨rfl, h⟩
    | ok s =>
      have hrun : ∀ {w₁ : World}, w₁.storeFault = none →
          storing slot plan w₁ = locking (plan s) w₁ := by
        intro w₁ h₁
        simp only [storing, h₁, hslot]
      rw [hrun hfault, hrun (hsame.trans hfault)]
      exact logBlind_locking (plan s) w w' h

theorem Act.logBlind_promote (id : Data) : LogBlind (promote id) :=
  (pervades_logBlind.ask _).bind fun _ => (logBlind_storing _ _).bind fun _ =>
    pervades_logBlind.pure _

theorem Capture.logBlind_capture (t : Instruments) (p : Prover) (i : ProveInput)
    (label testName slot : Data) : LogBlind (capture t p i label testName slot) := by
  have hrescue : ∀ r f, LogBlind (rescue r f) := by
    intro r f
    unfold rescue
    split
    · exact (pervades_logBlind.lift _).bind fun _ => (pervades_logBlind.reportAll _).bind fun _ =>
        pervades_logBlind.raise _
    · exact pervades_logBlind.raise _
  have hkeep : ∀ r, LogBlind (keep r slot) := fun r =>
    (pervades_logBlind.attempt (logBlind_storing _ _)).bind fun
      | .ok () => pervades_logBlind.pure _
      | .error f => hrescue r f
  exact (pervades_logBlind.record t p i label testName).bind fun r => (hkeep r).bind fun _ =>
    pervades_logBlind.pure _

end Commands

end ProofLedger
