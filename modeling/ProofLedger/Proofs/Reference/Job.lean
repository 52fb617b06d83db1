import ProofLedger.Proofs.Reference.Tended
import ProofLedger.Proofs.Run.Success

/-!
# A run of the reference prover

What a run with the reference prover and oracle comes to in a store that such runs have filled
(`Tended`), when the clock shows a time after all its records: it makes its record, which is
valid, and ends well (`Smooth`).

The proof goes along the stages. `exists_settling` takes a run as far as the comparison, whatever
it is for; from there the pointer moves (`Settling.promotes`) or stays (`Settling.stays`), and
`Job.Done` is what a job comes to in either case.
-/

namespace ProofLedger

open Directory

namespace Reference

open Pipeline

/-- A pipeline with the reference prover and the reference oracle. -/
def pipeline (threshold : Threshold) : Pipeline := ⟨prover, oracle, threshold⟩

variable {threshold : Threshold} {t : Instruments} {i : ProveInput} {label testName : Text}
  {w : World} {l : List ProofRecord} {m u : Moment}

/-- What the reference prover makes is stored under its new name. -/
theorem exists_captured (threshold : Threshold) (slot : Slot) (hledger : Represents w.store l)
    (hfault : w.storeFault = none)
    (hlength : i.length < 2 ^ 64) (hlabel : label.Scalar) (htestName : testName.Scalar)
    (hclock : t.clock w.clockReads = .ok m) (haware : m.isAware = true) (hutc : m.utc? = some u)
    (htimer : ∀ k, ((t.timer (k + 1)).sub (t.timer k)).isFinite = true)
    (hshort : isLongName (Identity.slug label ++ 45 :: u.stampText) = false)
    (hfresh : Identity.slug label ++ 45 :: u.stampText ∉ names l) :
    ∃ r w', (pipeline threshold).captureStage t i (.text label) (.text testName) (.start slot) w =
        ((.ok r, persisted slot r), w') ∧ Made i label u r ∧ Stores r w.store w'.store ∧
      w'.storeFault = none ∧ w'.clockReads = w.clockReads + 1 := by
  obtain ⟨w₀, hmove, hbefore⟩ := Stage.exists_later (r := .start slot) (s := .capturing) rfl w
  have hreads : w₀.clockReads = w.clockReads := hbefore.clockReads
  obtain ⟨r, w₁, hrecord, hlater, hmade⟩ := record_made hlength hlabel htestName (w := w₀)
    (hreads ▸ hclock) haware hutc (htimer _)
  have hnamed : Named r :=
    ⟨Capture.record_exact _ _ _ _ _ _ _ _ hrecord, hmade.named ▸ hshort⟩
  have hstore : w₁.store = w.store := hlater.store.trans hbefore.store
  rw [← hstore] at hledger
  obtain ⟨w₂, hcapture, hstores, hfault₂, hreads₂⟩ := capture_of_record
    (p := (pipeline threshold).prover) hrecord hledger
    (hlater.storeFault.trans (hbefore.storeFault.trans hfault)) hnamed (hmade.named ▸ hfresh)
    hmade.written
  obtain ⟨w₃, hmove', hafter⟩ := Stage.exists_later
    (r := { capturing slot with record := some r }) (s := .persisted) rfl w₂
  refine ⟨r, w₃, ?_, hmade, ?_, hafter.storeFault.trans hfault₂, ?_⟩
  · rw [captureStage, Stage.bind_eq_of_ok hmove, Stage.bind_eq_of_ok (Stage.ofAct_eq hcapture _),
      Stage.bind_eq_of_ok rfl]
    exact Stage.bind_eq_of_ok hmove'
  · rw [hafter.store, ← hstore]
    exact hstores
  · rw [hafter.clockReads, hreads₂, hlater.clockReads, hreads]

/-- A genuine record passes verification. -/
theorem exists_verified (threshold : Threshold) (slot : Slot) {r : ProofRecord}
    (hlength : r.input.length < 2 ^ 64) (hr : Genuine r)
    (hclock : t.clock w.clockReads = .ok m) (haware : m.isAware = true)
    (hutc : m.utc? = some u) :
    ∃ v w', (pipeline threshold).verifyStage t r (persisted slot r) w =
        ((.ok (), verifying slot r (some v)), w') ∧ Act.Later 1 w w' ∧
      Verification.About r v ∧ v.isValid = true := by
  obtain ⟨w₀, hmove, hbefore⟩ :=
    Stage.exists_later (r := persisted slot r) (s := .verifying) rfl w
  have hreads : w₀.clockReads = w.clockReads := hbefore.clockReads
  obtain ⟨v, w₁, hrun, hlater, hiff⟩ := verify_of_utc t hlength (hreads ▸ hclock) haware hutc
  have hvalid : v.isValid = true := hiff.mpr hr
  have hverify : Verification.verify t (pipeline threshold).oracle (pipeline threshold).checks r
      w₀ = (.ok v, w₁) := hrun
  have habout := Verification.verify_about _ _ _ _ _ _ _ hverify
  refine ⟨v, w₁, ?_, hbefore.trans hlater, habout, hvalid⟩
  rw [verifyStage, Stage.bind_eq_of_ok hmove, Stage.bind_eq_of_ok (Stage.ofAct_eq hverify _),
    Stage.bind_eq_of_ok rfl, hvalid]
  rfl

/-! ## One run -/

/-- What a run is asked for. -/
structure Job where
  input : ProveInput
  label : Text
  testName : Text
  slot : Slot
  accept : Bool

/-- The run of a job. -/
def Job.event (p : Pipeline) (t : Instruments) (j : Job) : Event :=
  .run p t j.input (.text j.label) (.text j.testName) j.slot j.accept

/-- An input with a seed, and texts without lone surrogates. -/
structure Job.Fair (j : Job) : Prop where
  length : j.input.length < 2 ^ 64
  label : j.label.Scalar
  testName : j.testName.Scalar

/-- A run that has made the record and gone well. -/
structure Smooth (e : Passage) (o : Outcome) (r : ProofRecord) : Prop where
  outcome : e.outcome = some o
  done : o.run.state = .done ∧ o.raised = none
  record : o.run.record = some r
  verified : ∃ v, o.run.verification = some v ∧ Verification.About r v ∧ v.isValid = true
  /-- With the input of the baseline the hash has not changed, and a run for the baseline moves
  the pointer. -/
  steady : ∀ b, e.before.baseline = .ok b → b.input = r.input →
    (∀ report, o.run.comparison = some report → report.verdict ≠ .hashMismatch) ∧
      (e.event.slot? = some .baseline → o.run.baselinePromoted = true ∧ e.after.baseline = .ok r)

/-- A job that is done: its run has gone well, the store holds its record after the older ones, and
the clock has been read twice. -/
structure Job.Done (p : Pipeline) (t : Instruments) (j : Job) (w : World) (l : List ProofRecord)
    (o : Outcome) (r : ProofRecord) (w' : World) : Prop where
  performs : (j.event p t).perform w = (some o, w')
  smooth : Smooth ⟨j.event p t, some o, w.store, w'.store⟩ o r
  tended : Tended w'.store (l ++ [r])
  storeFault : w'.storeFault = none
  clockReads : w'.clockReads = w.clockReads + 2

theorem Job.Done.run_eq {p : Pipeline} {j : Job} {o : Outcome} {r : ProofRecord} {w' : World}
    (h : j.Done p t w l o r w') :
    p.run t j.input (.text j.label) (.text j.testName) j.slot j.accept w = (o, w') := by
  rcases hrun : p.run t j.input (.text j.label) (.text j.testName) j.slot j.accept w with ⟨o', w''⟩
  have hperforms := h.performs
  simp only [Job.event, Event.perform, hrun] at hperforms
  cases hperforms
  rfl

/-- A run that has only to settle whether its record becomes the baseline. -/
structure Settling (p : Pipeline) (t : Instruments) (j : Job) (w : World) (l : List ProofRecord)
    (r : ProofRecord) (v : VerificationResult) (c : Option ComparisonReport) (skipped : Bool)
    (w' : World) : Prop where
  stages : p.stages t j.input (.text j.label) (.text j.testName) j.slot j.accept (.start j.slot) w =
    settleStage j.slot j.accept r c (comparing j.slot r v c skipped) w'
  grows : ∀ d, Represents d (l ++ [r]) → (∃ b, d.baseline = .ok b) → Tended d (l ++ [r])
  fresh : r.id.val ∉ names l
  about : Verification.About r v
  valid : v.isValid = true
  ledger : Represents w'.store (l ++ [r])
  pointer : w'.store.pointer = w.store.pointer
  storeFault : w'.storeFault = none
  clockReads : w'.clockReads = w.clockReads + 2
  /-- A comparison with a baseline of the same input has found the same hash. -/
  same : ∀ b, w.store.baseline = .ok b → b.input = r.input → ∀ report, c = some report →
    report.verdict ≠ .hashMismatch
  based : c.isSome = true → ∃ b, w.store.baseline = .ok b

section Step

variable {q : Quantity} {j : Job}

/-- A run comes as far as that, whatever it is for. -/
theorem exists_settling {m' u' : Moment} (hthreshold : threshold.check = .ok q)
    (hw : Tended w.store l) (hfault : w.storeFault = none) (hj : j.Fair)
    (hslot : l = [] → j.slot = .baseline)
    (htimer : ∀ k, ((t.timer (k + 1)).sub (t.timer k)).isFinite = true)
    (hclock : t.clock w.clockReads = .ok m) (haware : m.isAware = true) (hutc : m.utc? = some u)
    (hclock' : t.clock (w.clockReads + 1) = .ok m') (haware' : m'.isAware = true)
    (hutc' : m'.utc? = some u') (hlater : ∀ x ∈ l, x.createdAt.instant < u.instant)
    (hshort : isLongName (Identity.slug j.label ++ 45 :: u.stampText) = false) :
    ∃ r v c skipped w', Settling (pipeline threshold) t j w l r v c skipped w' ∧
      Made j.input j.label u r := by
  obtain ⟨hzone, -⟩ := Moment.instant_of_utc? hutc
  have hfresh := hw.fresh hzone hlater j.label
  obtain ⟨ref, hread, href⟩ := exists_reference j.slot hw.ledger fun hhistory =>
    hw.based fun hnil => by
      rw [hslot hnil] at hhistory
      cases hhistory
  obtain ⟨r, w₁, hcapture, hmade, hstores, hfault₁, hreads₁⟩ :=
    exists_captured threshold j.slot hw.ledger hfault hj.length hj.label hj.testName hclock haware
      hutc htimer hshort hfresh
  rw [← hreads₁] at hclock'
  obtain ⟨v, w₂, hverify, hlater₂, habout, hvalid⟩ := exists_verified threshold j.slot
    (hmade.input ▸ hj.length) hmade.genuine hclock' haware' hutc'
  obtain ⟨c, w₃, hcompare, hlater₃, hreport⟩ :=
    exists_compared (p := pipeline threshold) hthreshold j.slot r v ref w₂
  have hderive : Identity.derive j.label m = .ok _ := Identity.derive_eq haware hutc
  have hstore : w₃.store = w₁.store := hlater₃.store.trans hlater₂.store
  have hledger : Represents w₁.store (l ++ [r]) :=
    hw.ledger.stores (hmade.named ▸ Identity.derive_exact hderive) hstores
  refine ⟨r, v, c, ref.isNone, w₃, ?_, hmade⟩
  exact {
    stages := (Stage.bind_eq_of_ok (Stage.ofAct_eq hread _)).trans
      ((Stage.bind_eq_of_ok hcapture).trans
        ((Stage.bind_eq_of_ok hverify).trans (Stage.bind_eq_of_ok hcompare)))
    grows := fun _ => hw.grows hmade hzone hlater
    fresh := hmade.named ▸ hfresh
    about := habout
    valid := hvalid
    ledger := hstore ▸ hledger
    pointer := hstore ▸ hstores.pointer
    storeFault := hlater₃.storeFault.trans (hlater₂.storeFault.trans hfault₁)
    clockReads := by rw [hlater₃.clockReads, hlater₂.clockReads, hreads₁]
    same := by
      intro b hb hinput report hc
      rw [hreport, (href b).mp hb] at hc
      cases hc
      have hgenuine := hw.genuine b (hw.baseline_mem hb)
      exact ComparisonReport.verdict_of_hash q (hgenuine.hash_eq hmade.genuine hinput)
    based := by
      intro hc
      rw [hreport, Option.isSome_map] at hc
      obtain ⟨b, hb⟩ := Option.isSome_iff_exists.mp hc
      exact ⟨b, (href b).mpr hb⟩ }

variable {p : Pipeline} {r : ProofRecord} {v : VerificationResult} {c : Option ComparisonReport}
  {skipped : Bool} {w' : World}

/-- Its record becomes the baseline when the run is for it and nothing speaks against it. -/
theorem Settling.promotes (h : Settling p t j w l r v c skipped w') (hw : Tended w.store l)
    (hmoves : j.slot = .baseline ∧ hindrance? c j.accept = none) :
    ∃ o w'', j.Done p t w l o r w'' := by
  have hmem : r ∈ l ++ [r] := List.mem_append_right l List.mem_cons_self
  have hpointed : w'.store.pointed = w.store.pointed :=
    hw.ledger.pointed_congr (h.ledger.check pointerName) h.pointer
  have hother : w'.store.pointed ≠ .ok (.text r.id.val) :=
    hpointed ▸ hw.ledger.pointed_ne h.fresh
  obtain ⟨w'', hsettle, hpromotes, hfault, hreads⟩ :=
    exists_promoted h.ledger h.storeFault hmem hother hmoves v skipped
  have hrun := run_of_ok (h.stages.trans hsettle)
  obtain ⟨hledger, -, hbaseline⟩ := h.ledger.promoted hmem hpromotes
  refine ⟨finished { comparing j.slot r v c skipped with baselinePromoted := true }, w'',
    by simp only [Job.event, Event.perform, hrun]; rfl, ?_, h.grows _ hledger ⟨r, hbaseline⟩,
    hfault, hreads.trans h.clockReads⟩
  exact ⟨rfl, ⟨rfl, rfl⟩, rfl, ⟨v, rfl, h.about, h.valid⟩, fun b hb hinput =>
    ⟨h.same b hb hinput, fun _ => ⟨rfl, hbaseline⟩⟩⟩

/-- Otherwise the pointer stays, and with the input of the baseline that is so only where the run
is not for the baseline. -/
theorem Settling.stays (h : Settling p t j w l r v c skipped w') (hw : Tended w.store l)
    (hslot : l = [] → j.slot = .baseline)
    (hstays : j.slot = .history ∨ (hindrance? c j.accept).isSome = true) :
    ∃ o w'', j.Done p t w l o r w'' := by
  obtain ⟨w'', hsettle, hlater⟩ := exists_kept hstays r v skipped w'
  have hrun := run_of_ok (h.stages.trans hsettle)
  have hledger : Represents w''.store (l ++ [r]) := hlater.store ▸ h.ledger
  have hbased : ∃ b, w.store.baseline = .ok b := by
    rcases hstays with hhistory | hhindrance
    · refine hw.based fun hnil => ?_
      rw [hslot hnil] at hhistory
      cases hhistory
    · exact h.based (Option.isSome_of_isSome_filter _ _ hhindrance)
  have hsame : w''.store.baseline = w.store.baseline := hw.ledger.baseline_congr hledger
    (hlater.store ▸ h.pointer) (.inl (List.subset_append_left l [r]))
  refine ⟨finished (comparing j.slot r v c skipped), w'',
    by simp only [Job.event, Event.perform, hrun]; rfl, ?_, h.grows _ hledger (hsame ▸ hbased),
    hlater.storeFault.trans h.storeFault, hlater.clockReads.trans h.clockReads⟩
  refine ⟨rfl, ⟨rfl, rfl⟩, rfl, ⟨v, rfl, h.about, h.valid⟩, fun b hb hinput =>
    ⟨h.same b hb hinput, fun hbaseline => ?_⟩⟩
  -- only a change of the hash would keep the pointer where it is
  have hbaseline : j.slot = .baseline := Option.some.inj hbaseline
  have hhindrance := hstays.resolve_left (by simp [hbaseline])
  obtain ⟨report, hreport⟩ := Option.isSome_iff_exists.mp hhindrance
  obtain ⟨hc, hverdict⟩ := Option.filter_eq_some_iff.mp hreport
  refine absurd ?_ (h.same b hb hinput report hc)
  exact beq_iff_eq.mp (Bool.and_eq_true_iff.mp hverdict).1

theorem Settling.exists_done (h : Settling p t j w l r v c skipped w') (hw : Tended w.store l)
    (hslot : l = [] → j.slot = .baseline) : ∃ o w'', j.Done p t w l o r w'' := by
  cases hbaseline : j.slot with
  | history => exact h.stays hw hslot (.inl hbaseline)
  | baseline =>
    cases hhindrance : hindrance? c j.accept with
    | none => exact h.promotes hw ⟨hbaseline, hhindrance⟩
    | some report => exact h.stays hw hslot (.inr (hhindrance ▸ rfl))

end Step

end Reference

end ProofLedger
