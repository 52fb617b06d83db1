import ProofLedger.Proofs.CommandLine.Reporting
import ProofLedger.Proofs.Reference.Runs
import ProofLedger.Proofs.Run.Adoption

/-!
# The exit status of a capture for the baseline

Whoever runs `capture-baseline` takes its exit status for whether the record that was captured is
the baseline now. `captureBaseline_tells` is about any prover and oracle, any clock and timer and
any store: where the pointer does not name the record, the status is one and the pointer is as it
was, and where it does, the status is nought, provided that the report can be printed. It cannot
when one of its numbers is infinite, which is found out only after the pointer has moved; so it is
under a threshold without bound (`captureBaseline_unbounded`).

Two things meet in it: what the run has done to the pointer (`Pipeline.run_adopts_or_leaves`), and
the status that is computed from what the run says of itself (`status_of_adopts`,
`status_of_leaves`).
-/

namespace ProofLedger.CommandLine

open Act Directory Pipeline

/-! ## The status of a run -/

section Status

variable {c : Config} (hregression : c.failOnRegression = false)
include hregression

/-- A change of the hash is no failure when the record has become the baseline. -/
theorem captureStatus_of_adopts {o : Outcome} {d : Directory} {r : ProofRecord}
    (h : Adopts o d r) : captureStatus c o.run = 0 := by
  unfold captureStatus
  split
  · rfl
  · next hother =>
    -- it takes a comparison to see a change of the hash, and then the first case is met
    have hverdict : o.run.comparison.map ComparisonReport.verdict ≠ some .hashMismatch := by
      intro hverdict
      obtain ⟨report, hreport, -⟩ := Option.map_eq_some_iff.mp hverdict
      have hskipped := h.compared (by rw [hreport]; rfl)
      exact hother ⟨h.slot, h.promoted, by simp [hskipped], hverdict⟩
    unfold comparisonStatus
    split
    · next hmismatch => exact absurd hmismatch hverdict
    · simp [hregression]
    · rfl

variable {m : Manner} (hdir : m.options.outputDirectory = none) (name : Text) {o : Outcome}
include hdir

/-- Where the pointer has moved to the record, only a report that cannot be printed makes a
failure of the command. -/
theorem status_of_adopts {d : Directory} {r : ProofRecord} (h : Adopts o d r) (w : World) :
    (exitStatus (reportRun m c name o w).1 = 0 ∧ o.run.IsFinite) ∨
      exitStatus (reportRun m c name o w).1 = 1 ∧ ¬o.run.IsFinite := by
  have hrecord : ∀ x ∈ o.run.record, x.toData.Printable := by
    intro x hx
    rw [h.record] at hx
    cases hx
    exact ProofRecord.printable_of_dumps h.written
  rw [← Run.printable_iff hrecord h.failure]
  rcases status_of_done hdir c name h.raised w with ⟨hprintable, hstatus⟩ | hfailed
  · exact .inl ⟨hstatus.trans (captureStatus_of_adopts hregression h), hprintable⟩
  · exact .inr hfailed.symm

omit hregression in
/-- Where the pointer has stayed, the command has failed. -/
theorem status_of_leaves {d d' : Directory} (h : Leaves o d d') (w : World) :
    exitStatus (reportRun m c name o w).1 = 1 := by
  cases hraised : o.raised with
  | some f => exact status_of_raised hdir c name hraised w
  | none =>
    obtain ⟨hpromoted, hverdict⟩ := h.refused hraised
    rcases status_of_done hdir c name hraised w with ⟨-, hstatus⟩ | ⟨-, hstatus⟩
    · rw [hstatus, captureStatus, if_neg (by simp [hpromoted]), comparisonStatus, hverdict]
    · exact hstatus

end Status

/-! ## Capturing a baseline -/

section Capture

variable (loaded : Except Failure (Prover × Oracle)) (t : Instruments) (m : Manner) (c : Config)
  (label : Given Text) (accept : Bool)

/-- The run of a capture for the baseline with a prover and an oracle. -/
def runWith (makes : Prover × Oracle) : Act Outcome := do
  openStore
  let p ← lift (Pipeline.make makes.1 makes.2 (.ofDouble c.threshold))
  let i ← lift (Workflow.inputOr c none)
  always (p.run t i (label.toData .text) (.text c.testName) .baseline accept)

/-- The run of a capture for the baseline, when there are a prover and an oracle. -/
def runBaseline : Act Outcome := do
  runWith t c label accept (← lift loaded)

/-- A capture for the baseline with any prover and oracle. -/
def captureBaseline : Act Nat :=
  concluding do reportRun m c "capture-baseline" (← runBaseline loaded t c label accept)

/-- The prover and the oracle of a configuration. -/
def named (c : Config) : Except Failure (Prover × Oracle) :=
  (Workflow.makes c).map fun makes => (makes.1.prover, makes.2.oracle)

theorem workflow_run_eq :
    Workflow.run t c none (label.toData .text) (.text c.testName) .baseline accept =
      runBaseline (named c) t c label accept := by
  rw [Workflow.run, Workflow.pipeline, runBaseline, named]
  cases Workflow.makes c with
  | error f => rfl
  | ok makes =>
    simp only [bind_assoc]
    rfl

/-- The command is such a capture. -/
theorem execute_captureBaseline :
    execute t m c (.captureBaseline label accept) =
      captureBaseline (named c) t m c label accept := by
  rw [captureBaseline, ← workflow_run_eq]
  rfl

theorem later_openStore (w : World) : Later 0 w (openStore w).2 := by
  unfold openStore
  dsimp only
  split
  · exact ⟨rfl, rfl, rfl⟩
  · exact ⟨rfl, rfl, rfl⟩

theorem exists_openStore {w : World} (h : w.store.site.obstacle = none) :
    ∃ w', openStore w = (.ok (), w') ∧ Later 0 w w' := by
  have hlater := later_openStore w
  unfold openStore at hlater ⊢
  dsimp only at hlater ⊢
  rw [h] at hlater ⊢
  exact ⟨_, rfl, hlater⟩

/-- The command fails before its run, or there is a run of some pipeline. -/
theorem runBaseline_cases (w : World) :
    (∃ f w', runBaseline loaded t c label accept w = (.error f, w') ∧ w'.store = w.store) ∨
      ∃ (p : Pipeline) (i : ProveInput) (w₁ : World), w₁.store = w.store ∧
        runBaseline loaded t c label accept w =
          (.ok (p.run t i (label.toData .text) (.text c.testName) .baseline accept w₁).1,
            (p.run t i (label.toData .text) (.text c.testName) .baseline accept w₁).2) := by
  rw [runBaseline]
  cases loaded with
  | error f => exact .inl ⟨f, w, rfl, rfl⟩
  | ok makes =>
    rw [bind_eq_of_ok (lift_eq rfl), runWith]
    have hstore := (later_openStore w).store
    rcases hopen : openStore w with ⟨f | u, w₁⟩
    · rw [hopen] at hstore
      exact .inl ⟨f, w₁, bind_eq_of_error hopen, hstore⟩
    · rw [hopen] at hstore
      rw [bind_eq_of_ok hopen]
      cases Pipeline.make makes.1 makes.2 (.ofDouble c.threshold) with
      | error f => exact .inl ⟨f, w₁, rfl, hstore⟩
      | ok p =>
        cases Workflow.inputOr c none with
        | error f => exact .inl ⟨f, w₁, rfl, hstore⟩
        | ok i => exact .inr ⟨p, i, w₁, hstore, rfl⟩

end Capture

/-! ## What the status tells -/

/-- The pointer names the record that a run has captured. -/
def Names (d : Directory) (run : Run) : Prop :=
  ∃ r, run.record = some r ∧ d.pointed = .ok (.text r.id.val)

/-- What the exit status tells of the store, when there was a run or none. -/
structure Tells (before : Directory) (run? : Option Run) (status : Nat) (after : Directory) :
    Prop where
  binary : status = 0 ∨ status = 1
  /-- The status is nought when the pointer names the record and the report can be printed. -/
  success : status = 0 ↔ ∃ run, run? = some run ∧ Names after run ∧ run.IsFinite
  baseline : ∀ run, run? = some run → Names after run →
    ∃ r, run.record = some r ∧ after.baseline = .ok r
  unmoved : (∀ run, run? = some run → ¬Names after run) → after.pointer = before.pointer

section Tells

variable {loaded : Except Failure (Prover × Oracle)} {t : Instruments} {m : Manner} {c : Config}
  {label : Given Text} {accept : Bool} {w w' : World}

/-- The command after its run. -/
theorem captureBaseline_of_ok (hdir : m.options.outputDirectory = none) {o : Outcome}
    (h : runBaseline loaded t c label accept w = (.ok o, w')) :
    exitStatus (captureBaseline loaded t m c label accept w).1 =
        exitStatus (reportRun m c "capture-baseline" o w').1 ∧
      Later 0 w' (captureBaseline loaded t m c label accept w).2 := by
  obtain ⟨hstatus, hlater⟩ := concluding_spec
    (do reportRun m c "capture-baseline" (← runBaseline loaded t c label accept)) w
  rw [bind_eq_of_ok h] at hstatus hlater
  exact ⟨hstatus, (onlySpeaks_reportRun hdir c _ o w').trans hlater⟩

theorem captureBaseline_of_error {f : Failure}
    (h : runBaseline loaded t c label accept w = (.error f, w')) :
    exitStatus (captureBaseline loaded t m c label accept w).1 = 1 ∧
      Later 0 w' (captureBaseline loaded t m c label accept w).2 := by
  obtain ⟨hstatus, hlater⟩ := concluding_spec
    (do reportRun m c "capture-baseline" (← runBaseline loaded t c label accept)) w
  rw [bind_eq_of_error h] at hstatus hlater
  exact ⟨hstatus, hlater⟩

theorem tells_of_none {before after : Directory} (h : after.pointer = before.pointer) :
    Tells before none 1 after := by
  refine ⟨.inr rfl, ⟨nofun, ?_⟩, ?_, fun _ => h⟩
  · rintro ⟨_, ⟨⟩, -⟩
  · rintro _ ⟨⟩

/-- Where the pointer does not name the record, the status is one. -/
theorem tells_of_leaves {before after : Directory} {o : Outcome} (h : Leaves o before after) :
    Tells before (some o.run) 1 after := by
  have hother : ¬Names after o.run := fun ⟨r, hr, hpointed⟩ => h.other r hr hpointed
  refine ⟨.inr rfl, ⟨nofun, ?_⟩, ?_, fun _ => h.pointer⟩
  · rintro ⟨_, ⟨⟩, hnames, -⟩
    exact absurd hnames hother
  · rintro _ ⟨⟩ hnames
    exact absurd hnames hother

/-- Where it does, the status depends on the numbers of the report. -/
theorem tells_of_adopts {before after : Directory} {o : Outcome} {r : ProofRecord} {status : Nat}
    (h : Adopts o after r)
    (hstatus : (status = 0 ∧ o.run.IsFinite) ∨ status = 1 ∧ ¬o.run.IsFinite) :
    Tells before (some o.run) status after := by
  have hnames : Names after o.run := ⟨r, h.record, h.pointed⟩
  refine ⟨hstatus.imp And.left And.left, ⟨fun hzero => ?_, ?_⟩, ?_, fun hnone => ?_⟩
  · rcases hstatus with ⟨-, hfinite⟩ | ⟨hone, -⟩
    · exact ⟨o.run, rfl, hnames, hfinite⟩
    · omega
  · rintro ⟨_, ⟨⟩, -, hfinite⟩
    rcases hstatus with ⟨hzero, -⟩ | ⟨-, hinfinite⟩
    · exact hzero
    · exact absurd hfinite hinfinite
  · rintro _ ⟨⟩ -
    exact ⟨r, h.record, h.baseline⟩
  · exact absurd hnames (hnone o.run rfl)

end Tells

/-- The exit status of a capture for the baseline, whatever the prover, the oracle, the clock, the
timer and the store: it is nought exactly when the pointer names the record that was captured and
the report on the run can be printed, and it is one otherwise. The record that is named is the
baseline then, and where none is named, the pointer is as it was. -/
theorem captureBaseline_tells (loaded : Except Failure (Prover × Oracle)) (t : Instruments)
    (m : Manner) (c : Config) (label : Given Text) (accept : Bool) (w : World)
    (hdir : m.options.outputDirectory = none) (hregression : c.failOnRegression = false) :
    execute t m c (.captureBaseline label accept) =
        captureBaseline (named c) t m c label accept ∧
      Tells w.store ((runBaseline loaded t c label accept w).1.toOption.map Outcome.run)
        (exitStatus (captureBaseline loaded t m c label accept w).1)
        (captureBaseline loaded t m c label accept w).2.store := by
  refine ⟨execute_captureBaseline t m c label accept, ?_⟩
  rcases runBaseline_cases loaded t c label accept w with
    ⟨f, w', hrun, hstore⟩ | ⟨p, i, w₁, hstore, hrun⟩
  · obtain ⟨hstatus, hlater⟩ := captureBaseline_of_error (m := m) hrun
    rw [hrun, hstatus]
    exact tells_of_none (by rw [hlater.store, hstore])
  · obtain ⟨hstatus, hlater⟩ := captureBaseline_of_ok hdir hrun
    rw [hrun, hstatus, hlater.store, ← hstore]
    rcases run_adopts_or_leaves p t i (label.toData .text) (.text c.testName) accept w₁ with
      ⟨r, hadopts⟩ | hleaves
    · exact tells_of_adopts hadopts (status_of_adopts hregression hdir _ hadopts _)
    · rw [status_of_leaves hdir _ hleaves]
      exact tells_of_leaves hleaves

/-- The reference prover and a store with nothing in it. -/
theorem captureBaseline_tells_blank :
    let loaded : Except Failure (Prover × Oracle) := .ok (Reference.prover, Reference.oracle)
    let m : Manner := ⟨"/", Options.none⟩
    let label : Given Text := .value defaultBaselineLabel
    let w := World.of (.empty (.clear "store"))
    m.options.outputDirectory = none ∧ Config.default.failOnRegression = false ∧
      execute Reference.counting m .default (.captureBaseline label false) =
        captureBaseline (named .default) Reference.counting m .default label false ∧
      Tells w.store
        ((runBaseline loaded Reference.counting .default label false w).1.toOption.map Outcome.run)
        (exitStatus (captureBaseline loaded Reference.counting m .default label false w).1)
        (captureBaseline loaded Reference.counting m .default label false w).2.store := by
  intro loaded m label w
  exact ⟨rfl, rfl, captureBaseline_tells loaded _ m _ label false w rfl rfl⟩

/-! ## A report that cannot be printed -/

section Unbounded

open Reference (counting Job Ready Tended)

/-- A configuration under which no change of the duration is too great. -/
def unbounded : Config := { Config.default with threshold := .infinity false }

/-- Its pipeline. -/
def unboundedPipeline : Pipeline := Reference.pipeline (.ofDouble (.infinity false))

/-- The captures that are made under it. -/
def unboundedJob : Job where
  input := ⟨2, ⟨[1, 1, 1, 1, 1], rfl, by decide⟩, ⟨[1, 1, 1, 1, 1], rfl, by decide⟩⟩
  label := defaultBaselineLabel
  testName := unbounded.testName
  slot := .baseline
  accept := false

/-- One such capture, as it is asked for on the command line. -/
def recapture : Act Nat :=
  execute counting ⟨"/", Options.none⟩ unbounded
    (.captureBaseline (.value defaultBaselineLabel) false)

/-- The run of that capture. -/
def rerun : Act Outcome :=
  runBaseline (named unbounded) counting unbounded (.value defaultBaselineLabel) false

/-- A store with one record, which is its baseline. -/
def capturedOnce : World := (recapture (.of (.empty (.clear "store")))).2

theorem rerun_eq {w : World} (hsite : w.store.site.obstacle = none) :
    ∃ w₁, Later 0 w w₁ ∧ rerun w =
      always (unboundedPipeline.run counting unboundedJob.input (.text unboundedJob.label)
        (.text unboundedJob.testName) unboundedJob.slot unboundedJob.accept) w₁ := by
  have hnamed : named unbounded = .ok (Reference.prover, Reference.oracle) := rfl
  have hinput : Workflow.inputOr unbounded none = .ok unboundedJob.input := rfl
  have hpositive : (Threshold.ofDouble (.infinity false)).isNotPositive = false := by decide +kernel
  have hmake : Pipeline.make Reference.prover Reference.oracle (.ofDouble unbounded.threshold) =
      .ok unboundedPipeline := by
    rw [Pipeline.make, unbounded, hpositive]
    rfl
  obtain ⟨w₁, hopen, hlater⟩ := exists_openStore hsite
  refine ⟨w₁, hlater, ?_⟩
  rw [rerun, runBaseline, bind_eq_of_ok (lift_eq hnamed), runWith, bind_eq_of_ok hopen, hmake,
    hinput]
  rfl

/-- What a capture needs is the same in a later world with the same store. -/
theorem ready_of_later {t : Instruments} {w w' : World} {l : List ProofRecord} {jobs : List Job}
    (h : Ready t w l jobs) (hlater : Later 0 w w') : Ready t w' l jobs where
  tended := hlater.store ▸ h.tended
  storeFault := hlater.storeFault.trans h.storeFault
  ticking := hlater.clockReads ▸ h.ticking
  later := hlater.clockReads ▸ h.later
  fair := h.fair
  first := h.first
  short := hlater.clockReads ▸ h.short

/-- A capture does its job where others can follow it. -/
theorem exists_rerun {w : World} {l : List ProofRecord} {jobs : List Job}
    (h : Ready counting w l (unboundedJob :: jobs)) (hsite : w.store.site.obstacle = none) :
    ∃ o r w₁ w', Later 0 w w₁ ∧ rerun w = (.ok o, w') ∧
      unboundedJob.Done unboundedPipeline counting w₁ l o r w' ∧
      r.input = unboundedJob.input ∧ Ready counting w' (l ++ [r]) jobs ∧
      w'.store.site = w.store.site := by
  have hthreshold : (Threshold.ofDouble (.infinity false)).check =
      .ok (.double (.infinity false)) := by decide +kernel
  have htimer : ∀ k, ((counting.timer (k + 1)).sub (counting.timer k)).isFinite = true := by
    have hzero : (Double.zero.sub .zero).isFinite = true := by decide +kernel
    exact fun _ => hzero
  obtain ⟨w₁, hlater, hrerun⟩ := rerun_eq hsite
  obtain ⟨o, r, w', hdone, hinput, hready⟩ :=
    (ready_of_later h hlater).step hthreshold htimer
  have hdone : unboundedJob.Done unboundedPipeline counting w₁ l o r w' := hdone
  have hrun := hdone.run_eq
  have hplace := (run_ending unboundedPipeline counting unboundedJob.input
    (.text unboundedJob.label) (.text unboundedJob.testName) unboundedJob.slot
    unboundedJob.accept w₁).site
  rw [hrun, hlater.store] at hplace
  refine ⟨o, r, w₁, w', hlater, ?_, hdone, hinput, hready, hplace⟩
  rw [hrerun, always, hrun]

/-- What a capture that is asked for on the command line comes to after its run. -/
theorem recapture_of_ok {w w' : World} {o : Outcome} (h : rerun w = (.ok o, w')) :
    exitStatus (recapture w).1 = exitStatus (reportRun ⟨"/", Options.none⟩ unbounded
      "capture-baseline" o w').1 ∧ Later 0 w' (recapture w).2 := by
  rw [recapture, execute_captureBaseline]
  exact captureBaseline_of_ok rfl h

/-- The name of a record that is made at a reading of the clock. -/
theorem isLongName_of_counting {k : Nat} (h : k < Calendar.endOfTime) {label id : Text} {m : Moment}
    (hm : counting.clock k = .ok m) (hid : Identity.derive label m = .ok id)
    (hshort : isLongName (Identity.slug label ++ 45 :: (Reference.sinceStart k h).stampText) =
      false) : isLongName id = false := by
  rw [Reference.clock_counting h] at hm
  cases hm
  rw [Identity.derive_eq rfl (Reference.utc?_sinceStart h)] at hid
  cases hid
  exact hshort

/-- Two captures can be made one after the other. -/
theorem ready_unbounded :
    Ready counting (.of (.empty (.clear "store"))) [] [unboundedJob, unboundedJob] := by
  have hfair : ∀ j ∈ [unboundedJob, unboundedJob], j.Fair := by
    intro j hj
    rcases List.mem_pair.mp hj with rfl | rfl <;> exact ⟨by decide, by decide, by decide⟩
  refine ⟨Reference.tended_empty "store", rfl, Reference.ticking_counting (by decide), nofun, hfair,
    ?_, ?_⟩
  · rintro - j ⟨⟩
    rfl
  · intro k j m id hj hm hid
    rcases k with _ | _ | k
    · cases hj
      exact isLongName_of_counting (by decide) hm hid (by decide +kernel)
    · cases hj
      exact isLongName_of_counting (by decide) hm hid (by decide +kernel)
    · cases hj

/-- A comparison under no bound has a number without a numeral. -/
theorem not_isFinite_of_unbounded {run : Run} {b r : ProofRecord} {report : ComparisonReport}
    (hcompare : ProofLedger.compare b r unboundedPipeline.threshold = .ok report)
    (hreport : run.comparison = some report) : ¬run.IsFinite := by
  have hthreshold : unboundedPipeline.threshold.check = .ok (.double (.infinity false)) := by
    decide +kernel
  rw [ProofLedger.compare, hthreshold] at hcompare
  cases hcompare
  intro hfinite
  have hnumeral : (Double.infinity false).isFinite = true :=
    (hfinite.comparison _ hreport).threshold
  exact absurd hnumeral (by decide +kernel)

/-- The second capture moves the pointer to its record and ends with the status of a failure,
because the threshold in its report has no numeral. -/
theorem captureBaseline_unbounded :
    exitStatus (recapture capturedOnce).1 = 1 ∧
      (recapture capturedOnce).2.store.pointer ≠ capturedOnce.store.pointer ∧
      ∃ o, (rerun capturedOnce).1 = .ok o ∧ Names (recapture capturedOnce).2.store o.run := by
  obtain ⟨o₁, r₁, _, w₁, -, hrun₁, -, hinput₁, hready₁, hsite₁⟩ := exists_rerun ready_unbounded rfl
  have hlater₁ : Later 0 w₁ capturedOnce := (recapture_of_ok hrun₁).2
  have hready₂ := ready_of_later hready₁ hlater₁
  have hclear : capturedOnce.store.site.obstacle = none := by
    rw [hlater₁.store, hsite₁]
    rfl
  obtain ⟨o, r, w₂, w', hbefore, hrun, hdone, hinput, -, -⟩ := exists_rerun hready₂ hclear
  obtain ⟨hstatus, hafter⟩ := recapture_of_ok hrun
  have htended : Tended w₂.store ([] ++ [r₁]) := (ready_of_later hready₂ hbefore).tended
  obtain ⟨b, hb⟩ := htended.based (List.cons_ne_nil _ _)
  have hbase : b = r₁ := List.mem_singleton.mp (htended.baseline_mem hb)
  obtain ⟨-, hmoves⟩ := hdone.smooth.steady b hb (by rw [hbase, hinput₁, hinput])
  have hpromoted : o.run.baselinePromoted = true := (hmoves rfl).1
  have hsound := (unboundedJob.event unboundedPipeline counting).sound htended.ledger
  rw [hdone.performs] at hsound
  have hpointer : w'.store.pointer ≠ w₂.store.pointer := (hsound.2.moved o rfl).1.mp hpromoted
  have hends := run_adopts_or_leaves unboundedPipeline counting unboundedJob.input
    (.text unboundedJob.label) (.text unboundedJob.testName) unboundedJob.accept w₂
  have hending := run_ending unboundedPipeline counting unboundedJob.input
    (.text unboundedJob.label) (.text unboundedJob.testName) .baseline unboundedJob.accept w₂
  have heq : unboundedPipeline.run counting unboundedJob.input (.text unboundedJob.label)
      (.text unboundedJob.testName) .baseline unboundedJob.accept w₂ = (o, w') := hdone.run_eq
  rw [heq] at hends hending
  rcases hends with ⟨x, hadopts⟩ | hleaves
  · obtain ⟨_, _, _, hcompared⟩ := hending.compared hadopts.raised
    obtain ⟨report, hcompare, hreport⟩ := hcompared.exists_report hb
    have hinfinite := not_isFinite_of_unbounded hcompare hreport
    have hfailed := (status_of_adopts (c := unbounded) rfl (m := ⟨"/", Options.none⟩) rfl
      "capture-baseline" hadopts w').resolve_left fun h => hinfinite h.2
    refine ⟨hstatus.trans hfailed.1, ?_, o, congrArg Prod.fst hrun, x, hadopts.record, ?_⟩
    · rw [hafter.store, ← hbefore.store]
      exact hpointer
    · rw [hafter.store]
      exact hadopts.pointed
  · rw [(hleaves.refused hdone.smooth.done.2).1] at hpromoted
    cases hpromoted

end Unbounded

end ProofLedger.CommandLine
