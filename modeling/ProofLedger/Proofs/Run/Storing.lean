import ProofLedger.Proofs.Run.Quiet
import ProofLedger.Proofs.Store.Puts

/-!
# What capturing and promoting do to a store

The two commands of a run that change the store. `capture_cases`: a capture that succeeds has
stored the very record it returns, and `promote_cases`: a promotion that succeeds has moved the
pointer to the record under the name. What they leave when they fail is `Unmoved`.

All of it holds on any store, whatever its files hold.
-/

namespace ProofLedger

open Directory

/-! ## Capturing -/

namespace Capture

variable (t : Instruments) (p : Prover) (i : ProveInput) (label testName : Data)

/-- A failure is handed on with the record, or as it is, or it is that of writing the record. -/
theorem rescue_cases (r : ProofRecord) (f : Failure) (w : World) : ∃ e w',
    rescue r f w = (.error e, w') ∧ w'.store = w.store ∧
      ((∃ reason code, e = .ledger (.persist r reason code)) ∨
        isRecoverable e = false ∧ (e = f ∨ documentOctets r = .error e)) := by
  unfold rescue
  split
  · cases hdocument : document r with
    | error e =>
      obtain ⟨what, -, rfl⟩ := mapError_eq_error hdocument
      exact ⟨_, w, Act.bind_eq_of_error rfl, rfl,
        .inr ⟨rfl, .inr (documentOctets_of_document hdocument)⟩⟩
    | ok text =>
      have hrun : (Act.lift (.ok text) >>= fun document => (do
          Act.reportAll [recoveryLine r f.text document]
          Act.raise (.ledger (.persist r f.text (codeOf f))) : Act Unit)) w =
          (.error (.ledger (.persist r f.text (codeOf f))),
            { w with log := w.log ++ [recoveryLine r f.text text] }) :=
        (Act.bind_eq_of_ok rfl).trans (Act.bind_eq_of_ok rfl)
      exact ⟨_, _, hrun, rfl, .inl ⟨_, _, rfl⟩⟩
  · next hfinal => exact ⟨f, w, rfl, rfl, .inr ⟨by simpa using hfinal, .inl rfl⟩⟩

section Keeping

variable {t p i label testName} {slot : Data} {r : ProofRecord} {f : Failure} {w w₁ w' : World}

theorem keep_of_put (h : Act.put r slot w = (.ok (), w')) : keep r slot w = (.ok (), w') :=
  Act.bind_eq_of_ok (Act.attempt_eq_of_ok h)

theorem keep_eq_rescue (h : Act.put r slot w = (.error f, w₁)) : keep r slot w = rescue r f w₁ :=
  Act.bind_eq_of_ok (Act.attempt_eq_of_error h)

/-- A record that cannot be put is handed on, and the store is as putting left it. -/
theorem keep_of_error (h : Act.put r slot w = (.error f, w₁)) :
    ∃ e w', keep r slot w = (.error e, w') ∧ w'.store = w₁.store ∧
      ((∃ reason code, e = .ledger (.persist r reason code)) ∨
        isRecoverable e = false ∧ (e = f ∨ documentOctets r = .error e)) := by
  rw [keep_eq_rescue h]
  exact rescue_cases r f w₁

theorem capture_of_keep (hmade : record t p i label testName w = (.ok r, w₁))
    (hkeep : keep r slot w₁ = (.ok (), w')) :
    capture t p i label testName slot w = (.ok r, w') :=
  (Act.bind_eq_of_ok hmade).trans (Act.bind_eq_of_ok hkeep)

theorem capture_of_error (hmade : record t p i label testName w = (.ok r, w₁))
    (hkeep : keep r slot w₁ = (.error f, w')) :
    capture t p i label testName slot w = (.error f, w') :=
  (Act.bind_eq_of_ok hmade).trans (Act.bind_eq_of_error hkeep)

end Keeping

/-- A record is kept, or it is handed on with a failure. -/
theorem keep_cases (r : ProofRecord) (w : World) :
    (∃ w', keep r (.text Slot.history.text) w = (.ok (), w') ∧ Stores r w.store w'.store) ∨
      ∃ f w', keep r (.text Slot.history.text) w = (.error f, w') ∧
        Unmoved w.store w'.store := by
  rcases Act.storing_cases (.text Slot.history.text) (fun s d => d.put r s) w with
    ⟨f, hrun⟩ | ⟨s, w', hslot, hput⟩
  · obtain ⟨e, w', hkeep, hstore, -⟩ := keep_of_error hrun
    exact .inr ⟨e, w', hkeep, .inl (hstore ▸ Keeps.refl _)⟩
  · rw [Act.parse_text] at hslot
    cases hslot
    rcases putHistory_ends w.store r with ⟨hok, hstores⟩ | ⟨f, hfail, hfiles⟩
    · have hrun := hput.run.trans (by rw [Directory.put, hok])
      exact .inl ⟨w', keep_of_put hrun, hput.store ▸ hstores⟩
    · obtain ⟨e, w₁, hkeep, hstore, -⟩ :=
        keep_of_error (hput.run.trans (by rw [Directory.put, hfail]))
      refine .inr ⟨e, w₁, hkeep, ?_⟩
      rw [hstore, hput.store]
      exact hfiles

/-- What a capture returns has been made by `record`, and is stored. -/
theorem capture_cases (w : World) :
    (∃ r w₁ w', record t p i label testName w = (.ok r, w₁) ∧
        capture t p i label testName (.text Slot.history.text) w = (.ok r, w') ∧
        Stores r w.store w'.store) ∨
      ∃ f w', capture t p i label testName (.text Slot.history.text) w = (.error f, w') ∧
        Unmoved w.store w'.store := by
  have hquiet := quiet_record t p i label testName w
  rcases hmade : record t p i label testName w with ⟨f | r, w₁⟩
  · rw [hmade] at hquiet
    exact .inr ⟨f, w₁, Act.bind_eq_of_error hmade, .inl (hquiet ▸ Keeps.refl _)⟩
  · rw [hmade] at hquiet
    rcases keep_cases r w₁ with ⟨w', hkeep, hstores⟩ | ⟨f, w', hkeep, hfiles⟩
    · exact .inl ⟨r, w₁, w', rfl, capture_of_keep hmade hkeep, hquiet ▸ hstores⟩
    · exact .inr ⟨f, w', capture_of_error hmade hkeep, hquiet ▸ hfiles⟩

/-- A record is made when the prover has a proof, the clock shows a time and the fields are in
order. -/
theorem record_eq {t : Instruments} {p : Prover} {i : ProveInput} {label testName : Data}
    {w : World} {raw : List RawObject} {hash : Data} {m : Moment} {r : ProofRecord}
    (hprove : p.prove w.proverCalls i = .proved raw hash) (hclock : t.clock w.clockReads = .ok m)
    (hmake : makeRecord i label testName raw hash
      (Double.zero.max ((t.timer (w.timerReads + 1)).sub (t.timer w.timerReads))) m = .ok r) :
    record t p i label testName w = (.ok r, { w with
      timerReads := w.timerReads + 2, proverCalls := w.proverCalls + 1,
      clockReads := w.clockReads + 1, log := w.log ++ [startLine i label] ++ [doneLine r] }) := by
  have hanswer : ∀ w₁ : World, w₁.proverCalls = w.proverCalls →
      proveWith p i w₁ = (.ok (raw, hash), { w₁ with proverCalls := w₁.proverCalls + 1 }) := by
    intro w₁ hcalls
    have hask : Act.prove p i w₁ =
        (.ok (.proved raw hash), { w₁ with proverCalls := w₁.proverCalls + 1 }) := by
      rw [Act.prove, hcalls, hprove]
    exact Act.bind_eq_of_ok hask
  have hreport : ∀ lines (w₁ : World),
      Act.reportAll lines w₁ = (.ok (), { w₁ with log := w₁.log ++ lines }) := fun _ _ => rfl
  refine (Act.bind_eq_of_ok (hreport _ w)).trans ?_
  refine (Act.bind_eq_of_ok (Act.readTimer_eq t _)).trans ?_
  refine (Act.bind_eq_of_ok (hanswer _ (by rfl))).trans ?_
  refine (Act.bind_eq_of_ok (Act.elapsed_eq t _ _)).trans ?_
  refine (Act.bind_eq_of_ok (Act.readClock_eq (by exact hclock))).trans ?_
  exact (Act.bind_eq_of_ok (congrArg (·, _) hmake)).trans rfl

end Capture

/-! ## Promoting -/

/-- The record under a name becomes the baseline, or the pointer stays. -/
theorem Act.promote_cases {w : World} {id : Text} {r : ProofRecord}
    (hget : w.store.get id = .ok r) :
    (∃ w', promote (.text id) w = (.ok r, w') ∧ Promotes r w.store w'.store) ∨
      ∃ f w', promote (.text id) w = (.error f, w') ∧ Unmoved w.store w'.store := by
  have hask : ask (·.getNamed (.text id)) w = (.ok r, w) := ask_eq hget
  rcases storing_cases (.text Slot.baseline.text) (fun _ d => d.putBaseline r) w with
    ⟨f, hrun⟩ | ⟨s, w', -, hput⟩
  · have hpromote : promote (.text id) w = (.error f, w) :=
      (bind_eq_of_ok hask).trans (bind_eq_of_error hrun)
    exact .inr ⟨f, w, hpromote, .inl (Keeps.refl _)⟩
  · rcases putBaseline_ends w.store r with ⟨hok, hpromotes⟩ | ⟨f, hfail, hfiles⟩
    · have hrun := hput.run.trans (by rw [hok])
      refine .inl ⟨w', (bind_eq_of_ok hask).trans (bind_eq_of_ok hrun), ?_⟩
      rw [hput.store]
      exact hpromotes
    · have hrun := hput.run.trans (by rw [hfail])
      refine .inr ⟨f, w', (bind_eq_of_ok hask).trans (bind_eq_of_error hrun), ?_⟩
      rw [hput.store]
      exact hfiles

end ProofLedger
