import ProofLedger.Proofs.Store.Effects
import ProofLedger.World

/-!
# Commands on a store

How a command runs: `bind_eq_of_ok` and `bind_eq_of_error` take two commands in a row apart,
`locking_cases` and `storing_cases` say what a command that changes the store leaves behind. Such
a command ends before its first step, and then the store is as it was, or its plan is carried
out. Whether storage is out of order never changes.
-/

namespace ProofLedger.Act

variable {α β : Type}

theorem bind_eq_of_ok {a : Act α} {f : α → Act β} {w w' : World} {x : α}
    (h : a w = (.ok x, w')) : (a >>= f) w = f x w' := by
  simp only [bind, ExceptT.bind, ExceptT.mk, StateT.bind, h]
  rfl

theorem bind_eq_of_error {a : Act α} {f : α → Act β} {w w' : World} {e : Failure}
    (h : a w = (.error e, w')) : (a >>= f) w = (.error e, w') := by
  simp only [bind, ExceptT.bind, ExceptT.mk, StateT.bind, h]
  rfl

/-- Two commands in a row succeed when both do. -/
theorem bind_eq_ok {a : Act α} {f : α → Act β} {w w' : World} {y : β}
    (h : (a >>= f) w = (.ok y, w')) : ∃ x w₁, a w = (.ok x, w₁) ∧ f x w₁ = (.ok y, w') := by
  rcases hrun : a w with ⟨e | x, w₁⟩
  · rw [bind_eq_of_error hrun] at h
    cases h
  · rw [bind_eq_of_ok hrun] at h
    exact ⟨x, w₁, rfl, h⟩

theorem ask_eq {question : Directory → Except Failure α} {w : World} {x : Except Failure α}
    (h : question w.store = x) : ask question w = (x, w) := congrArg (·, w) h

theorem lift_eq {e x : Except Failure α} {w : World} (h : e = x) : lift e w = (x, w) :=
  congrArg (·, w) h

theorem attempt_eq_of_ok {a : Act α} {w w' : World} {x : α} (h : a w = (.ok x, w')) :
    a.attempt w = (.ok (.ok x), w') := by
  rw [attempt, always, h]

theorem attempt_eq_of_error {a : Act α} {w w' : World} {f : Failure} (h : a w = (.error f, w')) :
    a.attempt w = (.ok (.error f), w') := by
  rw [attempt, always, h]

/-- A command carries out a plan: its end, its effect on the store, the steps that are taken, and
nothing out of order that was not so before. -/
structure Carries (a : Act α) (p : Plan α) (w w' : World) : Prop where
  run : a w = (p.outcome, w')
  store : w'.store = p.final w.store
  storeFault : w'.storeFault = w.storeFault
  journal : w'.journal = w.journal ++ p.steps

/-- A command whose result is replaced carries out the plan whose result is. -/
theorem Carries.returning {a : Act α} {p : Plan α} {w w' : World} (h : Carries a p w w') (b : β) :
    Carries (a >>= fun _ => pure b) (p.returning b) w w' := by
  refine ⟨?_, h.store, h.storeFault, h.journal⟩
  rw [Plan.returning]
  cases hout : p.outcome with
  | ok x => exact bind_eq_of_ok (h.run.trans (by rw [hout]))
  | error f => exact bind_eq_of_error (h.run.trans (by rw [hout]))

/-- A command that ends before its first step carries out the plan without steps. -/
theorem carries_refuse {a : Act α} {f : Failure} {w w' : World} (hrun : a w = (.error f, w'))
    (hstore : w'.store = w.store) (hfault : w'.storeFault = w.storeFault)
    (hjournal : w'.journal = w.journal) : Carries a (.refuse f) w w' :=
  ⟨hrun, hstore, hfault, hjournal.trans (List.append_nil _).symm⟩

theorem locking_cases (plan : Directory → Plan α) (w : World) :
    (∃ f, w.store.site.isFolder lockName = true ∧ locking plan w = (.error f, w)) ∨
      ∃ w', Carries (locking plan) (plan w.store) w w' := by
  cases hlock : w.store.site.check lockName with
  | error f =>
    cases hclear : w.store.site.isFolder lockName with
    | true => exact .inl ⟨f, rfl, by simp only [locking, hlock]⟩
    | false =>
      rw [Site.check_eq_ok_iff.mpr hclear] at hlock
      cases hlock
  | ok u =>
    have hrun : locking plan w = carryOut plan { w with locked := true } := by
      simp only [locking, hlock]
    exact .inr ⟨_, hrun, rfl, rfl, rfl⟩

theorem storing_cases (slot : Data) (plan : Slot → Directory → Plan α) (w : World) :
    (∃ f, storing slot plan w = (.error f, w)) ∨
      ∃ s w', Slot.parse slot = .ok s ∧ Carries (storing slot plan) (plan s w.store) w w' := by
  cases hfault : w.storeFault with
  | some f => exact .inl ⟨f, by simp only [storing, hfault]⟩
  | none =>
    cases hslot : Slot.parse slot with
    | error f => exact .inl ⟨f, by simp only [storing, hfault, hslot]⟩
    | ok s =>
      have hrun : storing slot plan w = locking (plan s) w := by
        simp only [storing, hfault, hslot]
      rcases locking_cases (plan s) w with ⟨f, -, h⟩ | ⟨w', h⟩
      · exact .inl ⟨f, hrun.trans h⟩
      · exact .inr ⟨s, w', rfl, hrun.trans h.run, h.store, h.storeFault, h.journal⟩

theorem parse_text (s : Slot) : Slot.parse (.text s.text) = .ok s := by
  cases s with
  | baseline => rfl
  | history => rfl

/-- Where nothing stands in the way of the lock, a plan is carried out. -/
theorem carries_locking {w : World} (hlock : w.store.site.isFolder lockName = false)
    (plan : Directory → Plan α) : ∃ w', Carries (locking plan) (plan w.store) w w' := by
  rcases locking_cases plan w with ⟨f, hfolder, -⟩ | h
  · rw [hlock] at hfolder
    cases hfolder
  · exact h

/-- And where storage is in order too, so is one that stores a record. -/
theorem carries_storing {w : World} (hfault : w.storeFault = none)
    (hlock : w.store.site.isFolder lockName = false) (s : Slot)
    (plan : Slot → Directory → Plan α) :
    ∃ w', Carries (storing (.text s.text) plan) (plan s w.store) w w' := by
  have hrun : storing (.text s.text) plan w = locking (plan s) w := by
    simp only [storing, hfault, parse_text]
  obtain ⟨w', h⟩ := carries_locking hlock (plan s)
  exact ⟨w', hrun.trans h.run, h.store, h.storeFault, h.journal⟩

/-- Storing does not read the clock. -/
theorem clockReads_storing (slot : Data) (plan : Slot → Directory → Plan α) (w : World) :
    (storing slot plan w).2.clockReads = w.clockReads := by
  unfold storing
  split
  · rfl
  · rfl
  · unfold locking
    split <;> rfl

end ProofLedger.Act
