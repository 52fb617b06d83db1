import ProofLedger.Proofs.Run.Lineage

/-!
# Stages that go well

What each stage of a run needs in order not to fail, and what it comes to then: storing a record
with a new name (`capture_of_record`), reading the reference (`exists_reference`), comparing
(`exists_compared`), and moving the pointer or leaving it (`exists_promoted`, `exists_kept`). Each
says how often the clock is read, so that the stages can be put in a row.
-/

namespace ProofLedger

open Directory

/-! ## Comparing -/

/-- A comparison of equal hashes finds no change of the hash. -/
theorem ComparisonReport.verdict_of_hash {b r : ProofRecord} (q : Quantity)
    (h : b.proofHash.val = r.proofHash.val) :
    (ComparisonReport.of b r q).verdict ≠ .hashMismatch := by
  have hverdict : ∀ percent, verdictOf true percent q ≠ .hashMismatch := by
    intro percent
    unfold verdictOf classify
    split
    · next hfalse => cases hfalse
    · repeat' split
      all_goals decide
  simp only [ComparisonReport.of, h, beq_self_eq_true]
  exact hverdict _

namespace Pipeline

/-! ## Stages -/

theorem Stage.exists_later {r : Run} {s : RunState} (h : r.state.next? = some s) (w : World) :
    ∃ w', advance s r w = ((.ok (), { r with state := s, states := r.states ++ [s] }), w') ∧
      Act.Later 0 w w' := ⟨_, advance_eq h w, ⟨rfl, rfl, rfl⟩⟩

variable {p : Pipeline} {t : Instruments} {i : ProveInput} {slot : Slot} {w : World}
  {l : List ProofRecord} {r : ProofRecord} {v : VerificationResult}

/-- A record with a new name is stored once it has been made. -/
theorem capture_of_record {label testName : Data} {p : Prover} {w₁ : World}
    (hrecord : Capture.record t p i label testName w = (.ok r, w₁))
    (hledger : Represents w₁.store l) (hfault : w₁.storeFault = none) (hnamed : Named r)
    (hfresh : r.id.val ∉ names l) (hwritten : ∃ content, documentOctets r = .ok content) :
    ∃ w', Capture.capture t p i label testName (.text Slot.history.text) w = (.ok r, w') ∧
      Stores r w₁.store w'.store ∧ w'.storeFault = none ∧ w'.clockReads = w₁.clockReads := by
  have hok : (w₁.store.putHistory r).outcome = .ok () :=
    (hledger.putHistory_ok_iff hnamed).mpr ⟨hfresh, hwritten⟩
  obtain ⟨w', hput⟩ := Act.carries_storing hfault (hledger.isFolder lockName) .history
    fun s d => d.put r s
  have hrun : Act.put r (.text Slot.history.text) w₁ = (.ok (), w') :=
    hput.run.trans (by rw [Directory.put, hok])
  have hreads := Act.clockReads_storing (.text Slot.history.text) (fun s d => d.put r s) w₁
  rw [← Act.put, hrun] at hreads
  refine ⟨w', Capture.capture_of_keep hrecord (Capture.keep_of_put hrun), ?_,
    hput.storeFault.trans hfault, hreads⟩
  rw [hput.store]
  exact (putHistory_ends w₁.store r).of_ok hok

/-- A reference is read wherever there is a baseline, and a run for the baseline needs none. -/
theorem exists_reference (slot : Slot) (hledger : Represents w.store l)
    (hslot : slot = .history → ∃ b, w.store.baseline = .ok b) :
    ∃ ref, reference slot w = (.ok ref, w) ∧ ∀ b, w.store.baseline = .ok b ↔ ref = some b := by
  rcases hledger.baseline_cases with ⟨-, hnone⟩ | ⟨b, -, -, hbaseline⟩
  · cases slot with
    | history =>
      obtain ⟨b, hb⟩ := hslot rfl
      rw [hnone] at hb
      cases hb
    | baseline =>
      have hask := Act.attempt_eq_of_error (Act.ask_eq hnone)
      refine ⟨none, Act.bind_eq_of_ok hask, fun b => ?_⟩
      rw [hnone]
      simp only [reduceCtorEq]
  · have hiff : ∀ x, w.store.baseline = .ok x ↔ some b = some x := by
      intro x
      rw [hbaseline, Except.ok.injEq, Option.some.injEq]
    cases slot with
    | history =>
      exact ⟨some b, Act.bind_eq_of_ok (Act.ask_eq hbaseline), hiff⟩
    | baseline =>
      have hask := Act.attempt_eq_of_ok (Act.ask_eq hbaseline)
      exact ⟨some b, Act.bind_eq_of_ok hask, hiff⟩

/-- Every record can be compared under a threshold that is in order. -/
theorem exists_compared {q : Quantity} (hthreshold : p.threshold.check = .ok q) (slot : Slot)
    (r : ProofRecord) (v : VerificationResult) (ref : Option ProofRecord) (w : World) :
    ∃ c w', p.compareStage ref r (verifying slot r (some v)) w =
        ((.ok c, comparing slot r v c ref.isNone), w') ∧ Act.Later 0 w w' ∧
      c = ref.map (ComparisonReport.of · r q) := by
  obtain ⟨w₀, hmove, hlater⟩ :=
    Stage.exists_later (r := verifying slot r (some v)) (s := .comparing) rfl w
  unfold compareStage
  rw [Stage.bind_eq_of_ok hmove]
  cases ref with
  | none => exact ⟨none, _, rfl, ⟨hlater.store, hlater.storeFault, hlater.clockReads⟩, rfl⟩
  | some b =>
    have hcompare : Act.lift ((compare b r p.threshold).mapError .ofThresholdFault) w₀ =
        (.ok (.of b r q), w₀) := by
      rw [compare, hthreshold]
      rfl
    exact ⟨_, _, (Stage.bind_eq_of_ok (Stage.ofAct_eq hcompare _)).trans rfl,
      ⟨hlater.store, hlater.storeFault, hlater.clockReads⟩, rfl⟩

/-- A run that need not or may not move the pointer leaves it. -/
theorem exists_kept {accept : Bool} {c : Option ComparisonReport}
    (hstays : slot = .history ∨ (hindrance? c accept).isSome = true) (r : ProofRecord)
    (v : VerificationResult) (skipped : Bool) (w : World) :
    ∃ w', settleStage slot accept r c (comparing slot r v c skipped) w =
        ((.ok (), (finished (comparing slot r v c skipped)).run), w') ∧ Act.Later 0 w w' := by
  have hnext : (comparing slot r v c skipped).state.next? = some .done := rfl
  cases slot with
  | history => exact Stage.exists_later hnext w
  | baseline =>
    obtain ⟨report, hreport⟩ := Option.isSome_iff_exists.mp (hstays.resolve_left nofun)
    let line : LogLine := ⟨.warning, .pipeline, refusedText r report.baselineId⟩
    obtain ⟨w', hmove, hlater⟩ := Stage.exists_later hnext { w with log := w.log ++ [line] }
    have hpromote : promoteStage r c accept (comparing .baseline r v c skipped) w =
        ((.ok (), comparing .baseline r v c skipped), { w with log := w.log ++ [line] }) := by
      rw [promoteStage, hreport]
      rfl
    exact ⟨w', (Stage.bind_eq_of_ok hpromote).trans hmove,
      ⟨hlater.store, hlater.storeFault, hlater.clockReads⟩⟩

/-- A record of the ledger becomes the baseline when nothing keeps it from it. -/
theorem exists_promoted {accept : Bool} {c : Option ComparisonReport}
    (hledger : Represents w.store l) (hfault : w.storeFault = none) (hr : r ∈ l)
    (hother : w.store.pointed ≠ .ok (.text r.id.val))
    (hmoves : slot = .baseline ∧ hindrance? c accept = none) (v : VerificationResult)
    (skipped : Bool) :
    ∃ w', settleStage slot accept r c (comparing slot r v c skipped) w =
        ((.ok (), (finished
          { comparing slot r v c skipped with baselinePromoted := true }).run), w') ∧
      Promotes r w.store w'.store ∧ w'.storeFault = none ∧ w'.clockReads = w.clockReads := by
  obtain ⟨rfl, hmoves⟩ := hmoves
  have hask : Act.ask (·.getNamed (.text r.id.val)) w = (.ok r, w) :=
    Act.ask_eq (hledger.get_of_mem hr)
  obtain ⟨w₁, hstoring⟩ :=
    Act.carries_storing hfault (hledger.isFolder lockName) .baseline fun _ d => d.putBaseline r
  have hok := hledger.putBaseline_ok hr hother
  have hrun := hstoring.run.trans (by rw [hok])
  have hreads := Act.clockReads_storing (.text Slot.baseline.text) (fun _ d => d.putBaseline r) w
  rw [hrun] at hreads
  have hpromote : Act.promote (.text r.id.val) w = (.ok r, w₁) :=
    (Act.bind_eq_of_ok hask).trans (Act.bind_eq_of_ok hrun)
  have hstage : promoteStage r c accept (comparing .baseline r v c skipped) w =
      ((.ok (), { comparing .baseline r v c skipped with baselinePromoted := true }), w₁) := by
    rw [promoteStage, hmoves]
    exact (Stage.bind_eq_of_ok (Stage.ofAct_eq hpromote _)).trans rfl
  obtain ⟨w', hmove, hlater⟩ := Stage.exists_later (s := .done)
    (r := { comparing .baseline r v c skipped with baselinePromoted := true }) rfl w₁
  refine ⟨w', (Stage.bind_eq_of_ok hstage).trans hmove, ?_, ?_, ?_⟩
  · rw [hlater.store, hstoring.store]
    exact (putBaseline_ends w.store r).of_ok hok
  · rw [hlater.storeFault, hstoring.storeFault, hfault]
  · exact hlater.clockReads.trans hreads

/-- A run without a failure ends as its stages do. -/
theorem run_of_ok {label testName : Data} {accept : Bool} {run : Run} {w' : World}
    (h : p.stages t i label testName slot accept (.start slot) w = ((.ok (), run), w')) :
    p.run t i label testName slot accept w = (⟨run, none⟩, w') := by
  simp only [Pipeline.run, h]

end Pipeline

end ProofLedger
