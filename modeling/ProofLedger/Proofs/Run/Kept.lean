import ProofLedger.Proofs.Run.Account
import ProofLedger.Proofs.Run.Answer
import ProofLedger.Proofs.Store.Puts

/-!
# What becomes of a proof once it is made

`capture_kept`: when the answer of a prover has become a record, a capture returns that record and
it is stored, or the capture ends with an error that carries the record. A third end is left, with
neither: `Escapes` lists its causes, and `capture_escapes` is a damaged pointer among them.
-/

namespace ProofLedger.Capture

open Directory

/-- What ends a capture with a failure that does not carry the record: a slot that is none, a
storage whose own failure is no error of the system, a record without octets, or a damaged file
that the put has to read. -/
inductive Escapes (w : World) (r : ProofRecord) (slot : Data) (f : Failure) : Prop
  | slot (h : Slot.parse slot = .error f)
  | storage (h : w.storeFault = some f)
  | octets (h : documentOctets r = .error f)
  | hindered {s : Slot} (hslot : Slot.parse slot = .ok s) (h : Hindrance w.store r s f)

/-- A put that fails changes no file, but for a record file that the index did not take a line
on. -/
theorem put_unmoved {d : Directory} {r : ProofRecord} {s : Slot} {f : Failure}
    (h : (d.put r s).outcome = .error f) : Unmoved d ((d.put r s).final d) :=
  (put_ends d r s).of_error h

/-- A put stores the record, or it fails for a reason that is known. -/
theorem put_cases (r : ProofRecord) (slot : Data) (w : World) : ∃ w',
    (Act.put r slot w = (.ok (), w') ∧ w'.store.get r.id.val = .ok r) ∨
      ∃ f, Act.put r slot w = (.error f, w') ∧ Unmoved w.store w'.store ∧
        (isRecoverable f = true ∨ Escapes w r slot f) := by
  cases hfault : w.storeFault with
  | some f =>
    have hrun : Act.put r slot w = (.error f, w) := by simp only [Act.put, Act.storing, hfault]
    exact ⟨w, .inr ⟨f, hrun, .inl (Keeps.refl _), .inr (.storage hfault)⟩⟩
  | none =>
    cases hslot : Slot.parse slot with
    | error f =>
      have hrun : Act.put r slot w = (.error f, w) := by
        simp only [Act.put, Act.storing, hfault, hslot]
      exact ⟨w, .inr ⟨f, hrun, .inl (Keeps.refl _), .inr (.slot hslot)⟩⟩
    | ok s =>
      have hrun : Act.put r slot w = Act.locking (·.put r s) w := by
        simp only [Act.put, Act.storing, hfault, hslot]
      cases hlock : w.store.site.check lockName with
      | error f =>
        have hlocked : Act.locking (·.put r s) w = (.error f, w) := by
          simp only [Act.locking, hlock]
        exact ⟨w, .inr ⟨f, hrun.trans hlocked, .inl (Keeps.refl _),
          .inl (isRecoverable_check hlock)⟩⟩
      | ok u =>
        obtain ⟨w', hcarries⟩ := Act.carries_locking (Site.check_eq_ok_iff.mp hlock) (·.put r s)
        have hstore := hcarries.store
        refine ⟨w', ?_⟩
        cases hend : (w.store.put r s).outcome with
        | ok u =>
          refine .inl ⟨hrun.trans (hcarries.run.trans (by rw [hend])), ?_⟩
          rw [hstore]
          exact put_get hend
        | error f =>
          refine .inr ⟨f, hrun.trans (hcarries.run.trans (by rw [hend])), ?_, ?_⟩
          · rw [hstore]
            exact put_unmoved hend
          · exact (put_fails hend).imp_right (.hindered hslot)

/-- A proof that was made is not lost: the capture returns its record, which is stored, or it ends
with an error that carries the record, or one of the causes in `Escapes` ends it. The files are as
they were when it fails. -/
theorem capture_kept (t : Instruments) (p : Prover) (i : ProveInput)
    (label testName slot : Data) (w w₁ : World) (r : ProofRecord)
    (h : record t p i label testName w = (.ok r, w₁)) :
    (r.input = i ∧ (p.prove w.proverCalls i).Bears r) ∧ ∃ w',
      (capture t p i label testName slot w = (.ok r, w') ∧ w'.store.get r.id.val = .ok r) ∨
      ∃ f, capture t p i label testName slot w = (.error f, w') ∧ Unmoved w.store w'.store ∧
        ((∃ reason code, f = .ledger (.persist r reason code)) ∨
          isRecoverable f = false ∧ Escapes w₁ r slot f) := by
  refine ⟨record_bears h, ?_⟩
  have hstore : w₁.store = w.store := by
    have hquiet := quiet_record t p i label testName w
    rwa [h] at hquiet
  obtain ⟨w₂, ⟨hput, hget⟩ | ⟨f, hput, hfiles, hcause⟩⟩ := put_cases r slot w₁
  · exact ⟨w₂, .inl ⟨capture_of_keep h (keep_of_put hput), hget⟩⟩
  · obtain ⟨e, w', hkeep, hsame, hend⟩ := keep_of_error hput
    refine ⟨w', .inr ⟨e, capture_of_error h hkeep, ?_, ?_⟩⟩
    · rw [hsame, ← hstore]
      exact hfiles
    · rcases hend with hcarried | ⟨hfinal, rfl | hoctets⟩
      · exact .inl hcarried
      · refine .inr ⟨hfinal, hcause.resolve_left ?_⟩
        rw [hfinal]
        exact Bool.false_ne_true
      · exact .inr ⟨hfinal, .octets hoctets⟩

/-- The steady prover's proof is kept by a store with nothing in it, one way or the other. -/
theorem capture_kept_steady :
    let blank : World := .of (.empty (.clear "store"))
    let slot : Data := .text Slot.history.text
    ∃ r w₁, record still Pipeline.steady ProofRecord.sample.input (.text "main") (.text []) blank =
        (.ok r, w₁) ∧ r.input = ProofRecord.sample.input ∧ ∃ w',
      (capture still Pipeline.steady ProofRecord.sample.input (.text "main") (.text []) slot blank =
          (.ok r, w') ∧ w'.store.get r.id.val = .ok r) ∨
        ∃ f, capture still Pipeline.steady ProofRecord.sample.input (.text "main") (.text []) slot
            blank = (.error f, w') ∧ Unmoved blank.store w'.store ∧
          ((∃ reason code, f = .ledger (.persist r reason code)) ∨
            isRecoverable f = false ∧ Escapes w₁ r slot f) := by
  intro blank slot
  obtain ⟨r, hmake, -⟩ := Pipeline.exists_steadyRecord
  have hmade := record_eq (p := Pipeline.steady) (t := still) (w := blank) rfl rfl hmake
  obtain ⟨⟨hinput, -⟩, w', hend⟩ := capture_kept _ _ _ _ _ slot _ _ _ hmade
  exact ⟨r, _, hmade, hinput, w', hend⟩

/-! ## A record that is lost -/

/-- Where the pointer cannot be read, a capture for the baseline ends with the failure of reading
it, and the record is not stored. -/
theorem capture_of_pointer {t : Instruments} {p : Prover} {i : ProveInput} {label testName : Data}
    {w w₁ : World} {r : ProofRecord} {f : Failure}
    (hmade : record t p i label testName w = (.ok r, w₁)) (hfault : w₁.storeFault = none)
    (hlock : w₁.store.site.isFolder lockName = false) (hpointed : w₁.store.pointed = .error f)
    (hfinal : isRecoverable f = false) :
    ∃ w', capture t p i label testName (.text Slot.baseline.text) w = (.error f, w') ∧
      w'.store = w₁.store := by
  obtain ⟨w', hput⟩ := Act.carries_storing hfault hlock .baseline fun s d => d.put r s
  have hplan : w₁.store.put r .baseline = .refuse f := by
    rw [Directory.put, putBaseline, hpointed]
    rfl
  have hrun : Act.put r (.text Slot.baseline.text) w₁ = (.error f, w') :=
    hput.run.trans (by rw [hplan]; rfl)
  have hrescue : rescue r f w' = (.error f, w') := by
    rw [rescue, hfinal]
    rfl
  refine ⟨w', capture_of_error hmade ((keep_eq_rescue hrun).trans hrescue), ?_⟩
  rw [hput.store, hplan]
  rfl

/-- A store whose pointer is no document. -/
def damaged : World := .of { Directory.empty (.clear "store") with pointer := some [123] }

/-- A proof that is made and lost: it is not stored, and the error does not carry it. -/
theorem capture_escapes :
    ∃ r w₁ f w', record still Pipeline.steady ProofRecord.sample.input (.text "main") (.text [])
        damaged = (.ok r, w₁) ∧
      capture still Pipeline.steady ProofRecord.sample.input (.text "main") (.text [])
        (.text Slot.baseline.text) damaged = (.error f, w') ∧
      w'.store = damaged.store ∧ ∀ carried reason code,
        f ≠ .ledger (.persist carried reason code) := by
  obtain ⟨r, hmake, -⟩ := Pipeline.exists_steadyRecord
  have hmade := record_eq (p := Pipeline.steady) (t := still) (w := damaged) rfl rfl hmake
  obtain ⟨f, hpointed, hfinal⟩ :
      ∃ f, damaged.store.pointed = .error f ∧ isRecoverable f = false := ⟨_, rfl, rfl⟩
  obtain ⟨w', hcapture, hstore⟩ := capture_of_pointer hmade rfl rfl hpointed hfinal
  refine ⟨r, _, f, w', hmade, hcapture, hstore, fun carried reason code hpersist => ?_⟩
  rw [hpersist] at hfinal
  cases hfinal

end ProofLedger.Capture
