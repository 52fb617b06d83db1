import ProofLedger.Proofs.Run.LogBlind
import ProofLedger.Proofs.Run.Storing

/-!
# How runs end

`run_ending`: from any world, a run of the pipeline ends in one of seven ways, listed by `Ending`
with the whole run as it is then, the failure that ended it, and what it has done to the files of
the store. Prover, oracle, checks, clock and timer are any functions, and so is what the store
holds; whatever else is said of a run is read off this list.

The stages come first, each with the runs it is entered and left with. A failure is always that
of the work of a stage (`Fails`), never that of a move from one state to the next.
-/

namespace ProofLedger.Pipeline

open Directory

/-! ## Stages in a row -/

namespace Stage

variable {α β : Type} {r r' : Run} {w w' : World}

theorem bind_eq_of_ok {s : Stage α} {k : α → Stage β} {x : α}
    (h : s r w = ((.ok x, r'), w')) : (s >>= k) r w = k x r' w' := by
  simp only [bind, ExceptT.bind, ExceptT.mk, StateT.bind, h]
  rfl

theorem bind_eq_of_error {s : Stage α} {k : α → Stage β} {f : Failure}
    (h : s r w = ((.error f, r'), w')) : (s >>= k) r w = ((.error f, r'), w') := by
  simp only [bind, ExceptT.bind, ExceptT.mk, StateT.bind, h]
  rfl

theorem ofAct_eq {a : Act α} {result : Except Failure α} (h : a w = (result, w')) (r : Run) :
    ofAct a r w = ((result, r), w') := by
  simp only [ofAct, h]

/-- A move to the next state is never refused. -/
theorem advance_eq {s : RunState} (h : r.state.next? = some s) (w : World) :
    advance s r w = ((.ok (), { r with state := s, states := r.states ++ [s] }),
      { w with log := w.log ++ [Run.stepLine r.state s] }) := by
  have hmay : r.state.mayGo s = true := by simp [RunState.mayGo, h]
  have hmove : r.advance s =
      .ok ({ r with state := s, states := r.states ++ [s] }, Run.stepLine r.state s) := by
    rw [Run.advance, if_pos hmay]
  simp only [advance, hmove]

theorem exists_advance {s : RunState} (h : r.state.next? = some s) (w : World) :
    ∃ w', advance s r w = ((.ok (), { r with state := s, states := r.states ++ [s] }), w') ∧
      SameButLog w w' := ⟨_, advance_eq h w, _, rfl⟩

end Stage

/-! ## Runs on their way -/

section Runs

variable (slot : Slot) (r : ProofRecord)

/-- A run while its proof is captured. -/
def capturing : Run := ⟨slot, .capturing, [.idle, .capturing], none, none, none, false, false, none⟩

/-- A run whose record is stored. -/
def persisted : Run :=
  ⟨slot, .persisted, [.idle, .capturing, .persisted], some r, none, none, false, false, none⟩

/-- A run while its record is verified, and after. -/
def verifying (v : Option VerificationResult) : Run :=
  ⟨slot, .verifying, [.idle, .capturing, .persisted, .verifying], some r, v, none, false, false,
    none⟩

/-- A run while its record is compared, and after. -/
def comparing (v : VerificationResult) (c : Option ComparisonReport) (skipped : Bool) : Run :=
  ⟨slot, .comparing, [.idle, .capturing, .persisted, .verifying, .comparing], some r, some v, c,
    skipped, false, none⟩

end Runs

section Stages

variable (p : Pipeline) (t : Instruments) (i : ProveInput) (label testName : Data) (slot : Slot)

/-- From this world a run has come to the record, and left this world when it was captured. -/
structure AfterCapture (w : World) (r : ProofRecord) (w₁ : World) : Prop where
  read : ∃ ref, (reference slot w).1 = .ok ref
  capture : Capture.capture t p.prover i label testName (.text Slot.history.text) w = (.ok r, w₁)

/-- From this world a run has come to the record and found it valid, and left this world then. -/
structure AfterVerify (w : World) (r : ProofRecord) (v : VerificationResult) (w₂ : World) :
    Prop where
  verify : ∃ w₁, AfterCapture p t i label testName slot w r w₁ ∧
    Verification.verify t p.oracle p.checks r w₁ = (.ok v, w₂)
  valid : v.isValid = true

/-- The work that fails, and the run as it is then. Each command is asked of the world that the
one before has left, and the first of the world that the run starts from. The lines that a run
adds to the log in between are left out, because no command reads them. -/
inductive Fails (w : World) : Run → Failure → Prop where
  | reference {f : Failure} (h : (reference slot w).1 = .error f) : Fails w (.start slot) f
  | capture {ref : Option ProofRecord} {f : Failure} (read : (reference slot w).1 = .ok ref)
      (h : (Capture.capture t p.prover i label testName (.text Slot.history.text) w).1 = .error f) :
      Fails w (capturing slot) f
  | verify {r : ProofRecord} {w₁ : World} {f : Failure}
      (before : AfterCapture p t i label testName slot w r w₁)
      (h : (Verification.verify t p.oracle p.checks r w₁).1 = .error f) :
      Fails w (verifying slot r none) f
  | invalid {r : ProofRecord} {v : VerificationResult} {w₁ : World}
      (before : AfterCapture p t i label testName slot w r w₁)
      (h : (Verification.verify t p.oracle p.checks r w₁).1 = .ok v) (hv : v.isValid = false) :
      Fails w (verifying slot r (some v)) (.ledger (.verification v))
  | compare {b r : ProofRecord} {v : VerificationResult} {w₂ : World} {e : ThresholdFault}
      (before : AfterVerify p t i label testName slot w r v w₂)
      (read : (Pipeline.reference slot w).1 = .ok (some b))
      (h : compare b r p.threshold = .error e) :
      Fails w (comparing slot r v none false) (.ofThresholdFault e)
  | promote {ref : Option ProofRecord} {r : ProofRecord} {v : VerificationResult}
      {c : Option ComparisonReport} {w₂ : World} {f : Failure}
      (before : AfterVerify p t i label testName slot w r v w₂)
      (read : (Pipeline.reference slot w).1 = .ok ref)
      (report : ref.mapM (ProofLedger.compare · r p.threshold) = .ok c)
      (h : (Act.promote (.text r.id.val) w₂).1 = .error f) :
      Fails w (comparing slot r v c ref.isNone) f

/-! ## What each stage does -/

/-- Reading the reference leaves everything as it is. -/
theorem reference_snd (w : World) : (reference slot w).2 = w := by
  cases slot with
  | history =>
    rcases hbaseline : w.store.baseline with f | r
    · rw [reference, Act.bind_eq_of_error (Act.ask_eq hbaseline)]
    · rw [reference, Act.bind_eq_of_ok (Act.ask_eq hbaseline)]
      rfl
  | baseline =>
    have hfound : (Act.ask Directory.baseline).attempt w = (.ok w.store.baseline, w) := rfl
    rw [reference, Act.bind_eq_of_ok hfound]
    rcases w.store.baseline with f | r
    · cases f with
      | ledger e => cases e <;> rfl
      | _ => rfl
    · rfl

variable {slot} in
theorem captureStage_cases {w : World} {ref : Option ProofRecord}
    (hread : (reference slot w).1 = .ok ref) :
    (∃ r w₁ w₁', AfterCapture p t i label testName slot w r w₁ ∧
        p.captureStage t i label testName (.start slot) w = ((.ok r, persisted slot r), w₁') ∧
        SameButLog w₁ w₁') ∨
      ∃ f w₁', Fails p t i label testName slot w (capturing slot) f ∧
        p.captureStage t i label testName (.start slot) w = ((.error f, capturing slot), w₁') ∧
        Unmoved w.store w₁'.store := by
  obtain ⟨w₀, hmove, hlog⟩ := Stage.exists_advance (r := .start slot) (s := .capturing) rfl w
  have hblind := Capture.logBlind_capture t p.prover i label testName (.text Slot.history.text)
  rw [captureStage, Stage.bind_eq_of_ok hmove]
  rcases Capture.capture_cases t p.prover i label testName w with
    ⟨r, -, w₁, -, hcapture, -⟩ | ⟨f, w₁, hcapture, hfiles⟩
  · obtain ⟨w₁', hcapture', hsame⟩ := hblind.exists_eq hlog hcapture
    have hnext : RunState.capturing.next? = some .persisted := rfl
    obtain ⟨w₂', hmove, hlog⟩ :=
      Stage.exists_advance (r := { capturing slot with record := some r }) hnext w₁'
    refine .inl ⟨r, w₁, w₂', ⟨⟨ref, hread⟩, hcapture⟩, ?_, hsame.trans hlog⟩
    rw [Stage.bind_eq_of_ok (Stage.ofAct_eq hcapture' _), Stage.bind_eq_of_ok rfl]
    exact Stage.bind_eq_of_ok hmove
  · obtain ⟨w₁', hcapture', hsame⟩ := hblind.exists_eq hlog hcapture
    exact .inr ⟨f, w₁', .capture hread (congrArg Prod.fst hcapture),
      Stage.bind_eq_of_error (Stage.ofAct_eq hcapture' _), hsame.store ▸ hfiles⟩

variable {p t i label testName slot}

theorem verifyStage_cases {r : ProofRecord} {w w₁ w₁' : World}
    (hbefore : AfterCapture p t i label testName slot w r w₁) (hsame : SameButLog w₁ w₁') :
    (∃ v w₂ w₂', AfterVerify p t i label testName slot w r v w₂ ∧
        p.verifyStage t r (persisted slot r) w₁' = ((.ok (), verifying slot r (some v)), w₂') ∧
        SameButLog w₂ w₂' ∧ w₂'.store = w₁.store ∧ Verification.About r v) ∨
      ∃ f v w₂', Fails p t i label testName slot w (verifying slot r v) f ∧
        p.verifyStage t r (persisted slot r) w₁' = ((.error f, verifying slot r v), w₂') ∧
        w₂'.store = w₁.store ∧ ∀ x ∈ v, x.isValid = false := by
  obtain ⟨w₀, hmove, hlog⟩ :=
    Stage.exists_advance (r := persisted slot r) (s := .verifying) rfl w₁'
  have hblind : LogBlind (Verification.verify t p.oracle p.checks r) :=
    Act.pervades_logBlind.verify t p.oracle p.checks r
  have hquiet := Verification.quiet_verify t p.oracle p.checks r w₁
  rw [verifyStage, Stage.bind_eq_of_ok hmove]
  rcases hverify : Verification.verify t p.oracle p.checks r w₁ with ⟨f | v, w₂⟩
  all_goals
    obtain ⟨w₂', hverify', hsame'⟩ := hblind.exists_eq (hsame.trans hlog) hverify
    rw [hverify] at hquiet
    have hstore : w₂'.store = w₁.store := hsame'.store.trans hquiet
  · exact .inr ⟨f, none, w₂', .verify hbefore (congrArg Prod.fst hverify),
      Stage.bind_eq_of_error (Stage.ofAct_eq hverify' _), hstore, nofun⟩
  · have habout := Verification.verify_about t p.oracle p.checks r _ _ _ hverify
    rw [Stage.bind_eq_of_ok (Stage.ofAct_eq hverify' _), Stage.bind_eq_of_ok rfl]
    cases hvalid : v.isValid with
    | true => exact .inl ⟨v, w₂, w₂', ⟨⟨w₁, hbefore, hverify⟩, hvalid⟩, rfl, hsame', hstore, habout⟩
    | false =>
      exact .inr ⟨_, some v, w₂', .invalid hbefore (congrArg Prod.fst hverify) hvalid, rfl, hstore,
        fun x hx => Option.some.inj hx ▸ hvalid⟩

/-- Without a reference the comparison is skipped, and only then; with one it can fail. -/
theorem compareStage_cases {ref : Option ProofRecord} {r : ProofRecord} {v : VerificationResult}
    {w w₂ : World} (hbefore : AfterVerify p t i label testName slot w r v w₂)
    (hread : (reference slot w).1 = .ok ref) (w₂' : World) :
    (∃ c w₃, p.compareStage ref r (verifying slot r (some v)) w₂' =
          ((.ok c, comparing slot r v c ref.isNone), w₃) ∧
        SameButLog w₂' w₃ ∧ ref.mapM (ProofLedger.compare · r p.threshold) = .ok c) ∨
      ∃ f w₃, Fails p t i label testName slot w (comparing slot r v none false) f ∧
        p.compareStage ref r (verifying slot r (some v)) w₂' =
          ((.error f, comparing slot r v none false), w₃) ∧
        w₃.store = w₂'.store ∧ ∃ b e, ref = some b ∧
          ProofLedger.compare b r p.threshold = .error e := by
  obtain ⟨w₀, hmove, hlog⟩ :=
    Stage.exists_advance (r := verifying slot r (some v)) (s := .comparing) rfl w₂'
  unfold compareStage
  rw [Stage.bind_eq_of_ok hmove]
  cases ref with
  | none => exact .inl ⟨none, _, rfl, hlog.trans ⟨_, rfl⟩, rfl⟩
  | some b =>
    have hcompare : ∀ result, ProofLedger.compare b r p.threshold = result →
        Act.lift ((ProofLedger.compare b r p.threshold).mapError .ofThresholdFault) w₀ =
          (result.mapError .ofThresholdFault, w₀) := fun result h => by rw [h, Act.lift]
    cases hresult : ProofLedger.compare b r p.threshold with
    | error e =>
      exact .inr ⟨.ofThresholdFault e, w₀, .compare hbefore hread hresult,
        Stage.bind_eq_of_error (Stage.ofAct_eq (hcompare _ hresult) _), hlog.store, b, e, rfl,
        hresult⟩
    | ok c =>
      have hmap : (some b).mapM (ProofLedger.compare · r p.threshold) = .ok (some c) := by
        rw [Option.mapM_some, hresult]
        rfl
      let line : LogLine := ⟨.info, .pipeline, comparedText b r c.verdict⟩
      refine .inl ⟨some c, { w₀ with log := w₀.log ++ [line] }, ?_, hlog.trans ⟨_, rfl⟩, hmap⟩
      exact (Stage.bind_eq_of_ok (Stage.ofAct_eq (hcompare _ hresult) _)).trans rfl

/-- A record that is stored becomes the baseline, unless something keeps it from it. -/
theorem promoteStage_cases {ref : Option ProofRecord} {r : ProofRecord} {v : VerificationResult}
    {c : Option ComparisonReport} {w w₂ w₃ : World}
    (hbefore : AfterVerify p t i label testName slot w r v w₂)
    (hread : (reference slot w).1 = .ok ref)
    (hreport : ref.mapM (ProofLedger.compare · r p.threshold) = .ok c)
    (hsame : SameButLog w₂ w₃) (hget : w₃.store.get r.id.val = .ok r) (accept : Bool) :
    (∃ w', promoteStage r c accept (comparing slot r v c ref.isNone) w₃ =
          ((.ok (), comparing slot r v c ref.isNone), w') ∧
        w'.store = w₃.store ∧ (hindrance? c accept).isSome = true) ∨
      (∃ w', promoteStage r c accept (comparing slot r v c ref.isNone) w₃ =
          ((.ok (), { comparing slot r v c ref.isNone with baselinePromoted := true }), w') ∧
        Promotes r w₃.store w'.store ∧ hindrance? c accept = none) ∨
      ∃ f w', Fails p t i label testName slot w (comparing slot r v c ref.isNone) f ∧
        promoteStage r c accept (comparing slot r v c ref.isNone) w₃ =
          ((.error f, comparing slot r v c ref.isNone), w') ∧
        Unmoved w₃.store w'.store := by
  unfold promoteStage
  cases hindrance? c accept with
  | some report => exact .inl ⟨_, rfl, rfl, rfl⟩
  | none =>
    rcases Act.promote_cases hget with ⟨w', hpromote, hpromotes⟩ | ⟨f, w', hpromote, hfiles⟩
    · have hrun := Stage.ofAct_eq hpromote (comparing slot r v c ref.isNone)
      exact .inr (.inl ⟨w', (Stage.bind_eq_of_ok hrun).trans rfl, hpromotes, rfl⟩)
    · have hrun := Stage.ofAct_eq hpromote (comparing slot r v c ref.isNone)
      have hfail : (Act.promote (.text r.id.val) w₂).1 = .error f := by
        rw [← (Act.logBlind_promote (.text r.id.val) w₂ w₃ hsame).1, hpromote]
      exact .inr (.inr ⟨f, w', .promote hbefore hread hreport hfail,
        Stage.bind_eq_of_error hrun, hfiles⟩)

/-! ## The ways a run ends -/

/-- What a run leaves that a failure has ended. A failure that has no text does not abort the run:
it stays as it was, and what comes of asking for the text is raised. -/
def stopped (r : Run) (f : Failure) : Outcome :=
  match f.mute? with
  | none =>
    ⟨{ r with state := .aborted, states := r.states ++ [.aborted], failure := some f }, some f⟩
  | some asked => ⟨r, some asked⟩

section Stopped

variable (r : Run) (f : Failure)

theorem stopped_of_told {f : Failure} (h : f.mute? = none) : stopped r f =
    ⟨{ r with state := .aborted, states := r.states ++ [.aborted], failure := some f },
      some f⟩ := by
  rw [stopped, h]

theorem stopped_of_mute {f asked : Failure} (h : f.mute? = some asked) :
    stopped r f = ⟨r, some asked⟩ := by rw [stopped, h]

@[simp] theorem record_stopped : (stopped r f).run.record = r.record := by
  unfold stopped
  split <;> rfl

@[simp] theorem baselinePromoted_stopped :
    (stopped r f).run.baselinePromoted = r.baselinePromoted := by
  unfold stopped
  split <;> rfl

@[simp] theorem raised_stopped : (stopped r f).raised.isSome = true := by
  unfold stopped
  split <;> rfl

end Stopped

/-- What a run leaves that nothing has ended before its time. -/
def finished (r : Run) : Outcome :=
  ⟨{ r with state := .done, states := r.states ++ [.done] }, none⟩

variable (p t i label testName slot)

/-- A record has been made of what the prover answered, and stored. -/
structure Captured (w : World) (r : ProofRecord) (d : Directory) : Prop where
  made : ∃ w₁, Capture.record t p.prover i label testName w = (.ok r, w₁)
  stores : Stores r w.store d

/-- A record has been verified, and compared with the reference that was read at the start. -/
structure Compared (w : World) (r : ProofRecord) (reference : Option ProofRecord)
    (v : VerificationResult) (c : Option ComparisonReport) : Prop where
  read : (Pipeline.reference slot w).1 = .ok reference
  about : Verification.About r v
  valid : v.isValid = true
  report : reference.mapM (ProofLedger.compare · r p.threshold) = .ok c

/-- How a run from a world ends: what can be seen of it, and the files it leaves. -/
inductive Ending (accept : Bool) (w : World) : Outcome → Directory → Prop where
  | unread {f : Failure} (cause : Fails p t i label testName slot w (.start slot) f) :
      Ending accept w (stopped (.start slot) f) w.store
  | uncaptured {f : Failure} {d : Directory}
      (cause : Fails p t i label testName slot w (capturing slot) f) (files : Unmoved w.store d) :
      Ending accept w (stopped (capturing slot) f) d
  | unverified {r : ProofRecord} {v : Option VerificationResult} {f : Failure} {d : Directory}
      (captured : Captured p t i label testName w r d)
      (cause : Fails p t i label testName slot w (verifying slot r v) f) :
      Ending accept w (stopped (verifying slot r v) f) d
  | uncompared {r : ProofRecord} {v : VerificationResult} {f : Failure} {d : Directory}
      (captured : Captured p t i label testName w r d)
      (cause : Fails p t i label testName slot w (comparing slot r v none false) f) :
      Ending accept w (stopped (comparing slot r v none false) f) d
  | unpromoted {reference : Option ProofRecord} {r : ProofRecord} {v : VerificationResult}
      {c : Option ComparisonReport} {f : Failure} {d d' : Directory}
      (captured : Captured p t i label testName w r d)
      (cause : Fails p t i label testName slot w (comparing slot r v c reference.isNone) f)
      (files : Unmoved d d') :
      Ending accept w (stopped (comparing slot r v c reference.isNone) f) d'
  | kept {reference : Option ProofRecord} {r : ProofRecord} {v : VerificationResult}
      {c : Option ComparisonReport} {d : Directory}
      (captured : Captured p t i label testName w r d)
      (compared : Compared p slot w r reference v c)
      (stays : slot = .history ∨ (hindrance? c accept).isSome = true) :
      Ending accept w (finished (comparing slot r v c reference.isNone)) d
  | promoted {reference : Option ProofRecord} {r : ProofRecord} {v : VerificationResult}
      {c : Option ComparisonReport} {d d' : Directory}
      (captured : Captured p t i label testName w r d)
      (compared : Compared p slot w r reference v c)
      (moves : slot = .baseline ∧ hindrance? c accept = none) (promotes : Promotes r d d') :
      Ending accept w
        (finished { comparing slot r v c reference.isNone with baselinePromoted := true }) d'

variable {p t i label testName slot} {accept : Bool} {w w' : World} {run : Run}

/-- A record that a run has captured is stored. -/
theorem AfterCapture.captured {r : ProofRecord} {w₁ : World}
    (h : AfterCapture p t i label testName slot w r w₁) :
    Captured p t i label testName w r w₁.store := by
  rcases Capture.capture_cases t p.prover i label testName w with
    ⟨r', w₀, w', hmade, hcapture, hstores⟩ | ⟨f, w', hcapture, -⟩
  · cases h.capture.symm.trans hcapture
    exact ⟨⟨w₀, hmade⟩, hstores⟩
  · cases h.capture.symm.trans hcapture

/-- A run that is not over is stopped by a failure, and nothing else happens to the store. -/
theorem exists_close (hnext : run.state.next?.isSome = true) (f : Failure) (w : World) :
    ∃ w₁, close f run w = (stopped run f, w₁) ∧ w₁.store = w.store := by
  cases hmute : f.mute? with
  | some asked =>
    refine ⟨(close f run w).2, ?_, rfl⟩
    simp only [close, Run.abort, hmute, stopped]
  | none =>
    obtain ⟨s, hs⟩ := Option.isSome_iff_exists.mp hnext
    have hmay : run.state.mayGo .aborted = true := by simp [RunState.mayGo, hs]
    have habort : run.abort f = ((stopped run f).run,
        [Run.abortLine run.state f, Run.stepLine run.state .aborted], .ok ()) := by
      simp only [Run.abort, hmute, Run.advance, hmay, if_true, stopped]
    refine ⟨(close f run w).2, ?_, rfl⟩
    simp only [close, habort, stopped, hmute]

/-- The failure of a stage ends the run, and nothing else happens to the store. -/
theorem run_of_error {f : Failure}
    (h : p.stages t i label testName slot accept (.start slot) w = ((.error f, run), w'))
    (hnext : run.state.next?.isSome = true) :
    ∃ w₁, p.run t i label testName slot accept w = (stopped run f, w₁) ∧ w₁.store = w'.store := by
  have hrun : p.run t i label testName slot accept w = close f run w' := by
    simp only [Pipeline.run, h]
  rw [hrun]
  exact exists_close hnext f w'

theorem Ending.of_error {f : Failure}
    (h : p.stages t i label testName slot accept (.start slot) w = ((.error f, run), w'))
    (hnext : run.state.next?.isSome = true)
    (hending : Ending p t i label testName slot accept w (stopped run f) w'.store) :
    Ending p t i label testName slot accept w (p.run t i label testName slot accept w).1
      (p.run t i label testName slot accept w).2.store := by
  obtain ⟨w₁, hrun, hstore⟩ := run_of_error h hnext
  rw [hrun, hstore]
  exact hending

theorem Ending.of_ok
    (h : p.stages t i label testName slot accept (.start slot) w = ((.ok (), run), w'))
    (hending : Ending p t i label testName slot accept w ⟨run, none⟩ w'.store) :
    Ending p t i label testName slot accept w (p.run t i label testName slot accept w).1
      (p.run t i label testName slot accept w).2.store := by
  have hrun : p.run t i label testName slot accept w = (⟨run, none⟩, w') := by
    simp only [Pipeline.run, h]
  rw [hrun]
  exact hending

/-- The last part of a run, when its record has been compared: it becomes the baseline or not. -/
def settleStage (slot : Slot) (accept : Bool) (r : ProofRecord) (c : Option ComparisonReport) :
    Stage Unit := do
  match slot with
  | .history => pure ()
  | .baseline => promoteStage r c accept
  Stage.advance .done

theorem Ending.of_compared {ref : Option ProofRecord} {r : ProofRecord}
    {v : VerificationResult} {c : Option ComparisonReport} {w₂ : World}
    (h : p.stages t i label testName slot accept (.start slot) w =
      settleStage slot accept r c (comparing slot r v c ref.isNone) w')
    (captured : Captured p t i label testName w r w'.store)
    (before : AfterVerify p t i label testName slot w r v w₂) (hsame : SameButLog w₂ w')
    (compared : Compared p slot w r ref v c) :
    Ending p t i label testName slot accept w (p.run t i label testName slot accept w).1
      (p.run t i label testName slot accept w).2.store := by
  have hnext : RunState.comparing.next? = some .done := rfl
  cases slot with
  | history =>
    obtain ⟨w₁, hmove, hlog⟩ :=
      Stage.exists_advance (r := comparing .history r v c ref.isNone) hnext w'
    refine .of_ok (h.trans hmove) ?_
    exact .kept (hlog.store ▸ captured) compared (.inl rfl)
  | baseline =>
    rcases promoteStage_cases before compared.read compared.report hsame captured.stores.get
      accept with ⟨w₁, hrun, hstore, hstays⟩ | ⟨w₁, hrun, hpromotes, hmoves⟩ |
      ⟨f, w₁, cause, hrun, hfiles⟩
    · obtain ⟨w₂, hmove, hlog⟩ := Stage.exists_advance
        (r := comparing .baseline r v c ref.isNone) hnext w₁
      refine .of_ok (h.trans ((Stage.bind_eq_of_ok hrun).trans hmove)) ?_
      exact .kept (hlog.store.trans hstore ▸ captured) compared (.inr hstays)
    · obtain ⟨w₂, hmove, hlog⟩ := Stage.exists_advance
        (r := { comparing .baseline r v c ref.isNone with baselinePromoted := true }) hnext w₁
      refine .of_ok (h.trans ((Stage.bind_eq_of_ok hrun).trans hmove)) ?_
      exact .promoted captured compared ⟨rfl, hmoves⟩ (hlog.store ▸ hpromotes)
    · refine .of_error (h.trans (Stage.bind_eq_of_error hrun)) rfl ?_
      exact .unpromoted captured cause hfiles

variable (p t i label testName accept) in
/-- With the reference read, a run goes through the four stages. -/
theorem stages_of_reference {ref : Option ProofRecord} (h : (reference slot w).1 = .ok ref) :
    p.stages t i label testName slot accept (.start slot) w = (do
      let record ← p.captureStage t i label testName
      p.verifyStage t record
      let comparison ← p.compareStage ref record
      settleStage slot accept record comparison) (.start slot) w := by
  have hread : reference slot w = (.ok ref, w) := Prod.ext h (reference_snd slot w)
  exact Stage.bind_eq_of_ok (Stage.ofAct_eq hread (.start slot))

/-- Every run ends in one of these ways. -/
theorem run_ending (p : Pipeline) (t : Instruments) (i : ProveInput) (label testName : Data)
    (slot : Slot) (accept : Bool) (w : World) :
    Ending p t i label testName slot accept w (p.run t i label testName slot accept w).1
      (p.run t i label testName slot accept w).2.store := by
  rcases hread : (reference slot w).1 with f | ref
  · have hrun : reference slot w = (.error f, w) := Prod.ext hread (reference_snd slot w)
    refine .of_error (Stage.bind_eq_of_error (Stage.ofAct_eq hrun _)) rfl ?_
    exact .unread (.reference hread)
  have hstages := stages_of_reference p t i label testName accept hread
  rcases captureStage_cases p t i label testName hread with
    ⟨r, w₁, w₁', hcaptured, hcapture, hsame⟩ | ⟨f, w₁, cause, hcapture, hfiles⟩
  rotate_left
  · refine .of_error (hstages.trans (Stage.bind_eq_of_error hcapture)) rfl ?_
    exact .uncaptured cause hfiles
  rw [Stage.bind_eq_of_ok hcapture] at hstages
  rcases verifyStage_cases hcaptured hsame with
    ⟨v, w₂, w₂', hverified, hverify, hsame', hstore, habout⟩ |
    ⟨f, v, w₂, cause, hverify, hstore, -⟩
  rotate_left
  · refine .of_error (hstages.trans (Stage.bind_eq_of_error hverify)) rfl ?_
    exact .unverified (hstore ▸ hcaptured.captured) cause
  rw [Stage.bind_eq_of_ok hverify] at hstages
  rcases compareStage_cases hverified hread w₂' with
    ⟨c, w₃, hcompare, hsame'', hreport⟩ | ⟨f, w₃, cause, hcompare, hstore', -⟩
  rotate_left
  · refine .of_error (hstages.trans (Stage.bind_eq_of_error hcompare)) rfl ?_
    exact .uncompared (hstore'.trans hstore ▸ hcaptured.captured) cause
  rw [Stage.bind_eq_of_ok hcompare] at hstages
  exact .of_compared hstages (hsame''.store.trans hstore ▸ hcaptured.captured) hverified
    (hsame'.trans hsame'') ⟨hread, habout, hverified.valid, hreport⟩

end Stages

end ProofLedger.Pipeline
