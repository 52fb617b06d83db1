import ProofLedger.Proofs.Run.Account

/-!
# Batches

A batch beside the same runs one by one (`runSeries`). Between two runs a batch writes to the log
and does nothing else, and no stage of a run reads the log (`Stage.LogBlind`), so the runs of a
batch are those of the series. `runBatch_isolates` says how far this carries: a batch goes to its
end past every run that an error of the ledger has aborted. Any other failure, of a prover that
raises it or of an answer that makes no record, ends the batch together with the run
(`runBatch_stops`).
-/

namespace ProofLedger

namespace Pipeline

open Act

/-! ## The stages of a run -/

namespace Stage

variable {α β : Type}

/-- The stage is blind to the log, whatever the run it is entered with. -/
def LogBlind (s : Stage α) : Prop := ∀ r, ProofLedger.LogBlind (s r)

theorem LogBlind.bind {s : Stage α} {k : α → Stage β} (hs : LogBlind s)
    (hk : ∀ x, LogBlind (k x)) : LogBlind (s >>= k) := by
  intro r w w' h
  obtain ⟨hend, hsame⟩ := hs r w w' h
  have hrun' : s r w' = ((s r w).1, (s r w').2) := Prod.ext hend rfl
  rcases hrun : s r w with ⟨⟨e | x, r₁⟩, w₁⟩
  · rw [hrun] at hrun' hsame
    rw [bind_eq_of_error hrun, bind_eq_of_error hrun']
    exact ⟨rfl, hsame⟩
  · rw [hrun] at hrun' hsame
    rw [bind_eq_of_ok hrun, bind_eq_of_ok hrun']
    exact hk x r₁ w₁ (s r w').2 hsame

theorem logBlind_ofAct {a : Act α} (ha : ProofLedger.LogBlind a) : LogBlind (ofAct a) := by
  intro r w w' h
  obtain ⟨hend, hsame⟩ := ha w w' h
  exact ⟨congrArg (·, r) hend, hsame⟩

theorem logBlind_advance (target : RunState) : LogBlind (advance target) := by
  rintro r w _ ⟨log, rfl⟩
  unfold advance
  split
  · exact ⟨rfl, _, rfl⟩
  · exact ⟨rfl, log, rfl⟩

theorem logBlind_note (change : Run → Run) : LogBlind (note change) := fun _ _ _ h => ⟨rfl, h⟩

theorem logBlind_pure (x : α) : LogBlind (pure x) := fun _ _ _ h => ⟨rfl, h⟩

theorem logBlind_report (level : LogLevel) (source : LogSource) (message : Text) :
    LogBlind (ofAct (Act.report level source message)) :=
  logBlind_ofAct (pervades_logBlind.report level source message)

end Stage

open Stage

variable (p : Pipeline) (t : Instruments) (i : ProveInput) (label testName : Data) (slot : Slot)
  (accept : Bool)

theorem logBlind_captureStage : Stage.LogBlind (p.captureStage t i label testName) :=
  (logBlind_advance _).bind fun _ =>
  (logBlind_ofAct (Capture.logBlind_capture t p.prover i label testName _)).bind fun _ =>
  (logBlind_note _).bind fun _ => (logBlind_advance _).bind fun _ => logBlind_pure _

theorem logBlind_verifyStage (r : ProofRecord) : Stage.LogBlind (p.verifyStage t r) := by
  refine (logBlind_advance _).bind fun _ =>
    (logBlind_ofAct (pervades_logBlind.verify t p.oracle p.checks r)).bind fun v =>
    (logBlind_note _).bind fun _ => ?_
  split
  · exact logBlind_pure _
  · exact logBlind_ofAct (pervades_logBlind.raise _)

theorem logBlind_compareStage (reference : Option ProofRecord) (r : ProofRecord) :
    Stage.LogBlind (p.compareStage reference r) := by
  refine (logBlind_advance _).bind fun _ => ?_
  cases reference with
  | none =>
    exact (logBlind_note _).bind fun _ => (logBlind_report _ _ _).bind fun _ => logBlind_pure _
  | some b =>
    exact (logBlind_ofAct (pervades_logBlind.lift _)).bind fun _ => (logBlind_note _).bind fun _ =>
      (logBlind_report _ _ _).bind fun _ => logBlind_pure _

theorem logBlind_promoteStage (r : ProofRecord) (c : Option ComparisonReport) :
    Stage.LogBlind (promoteStage r c accept) := by
  unfold promoteStage
  split
  · exact logBlind_report _ _ _
  · exact (logBlind_ofAct (logBlind_promote _)).bind fun _ => logBlind_note _

theorem logBlind_stages : Stage.LogBlind (p.stages t i label testName slot accept) := by
  refine (logBlind_ofAct (pervades_logBlind.reference slot)).bind fun reference =>
    (p.logBlind_captureStage t i label testName).bind fun r =>
    (p.logBlind_verifyStage t r).bind fun _ =>
    (p.logBlind_compareStage reference r).bind fun c => ?_
  cases slot with
  | history => exact logBlind_advance _
  | baseline => exact (logBlind_promoteStage accept r c).bind fun _ => logBlind_advance _

theorem logBlind_close (f : Failure) (r : Run) : LogBlind (close f r) := by
  rintro w _ ⟨log, rfl⟩
  exact ⟨rfl, _, rfl⟩

/-- A run does not read the log. -/
theorem logBlind_run : LogBlind (p.run t i label testName slot accept) := by
  intro w w' h
  obtain ⟨hend, hsame⟩ := p.logBlind_stages t i label testName slot accept (.start slot) w w' h
  unfold Pipeline.run
  rcases hrun : p.stages t i label testName slot accept (.start slot) w with ⟨⟨f | u, r⟩, w₁⟩
  all_goals
    rcases hrun' : p.stages t i label testName slot accept (.start slot) w' with ⟨end', w₁'⟩
    rw [hrun, hrun'] at hend hsame
    cases hend
  · exact logBlind_close f r w₁ w₁' hsame
  · exact ⟨rfl, hsame⟩

/-! ## A batch and its runs -/

/-- One run after another, with what each leaves. -/
def runSeries (p : Pipeline) (t : Instruments) (label testName : Data) (slot : Slot) :
    List ProveInput → World → List Outcome × World
  | [], w => ([], w)
  | i :: rest, w =>
    let (o, w') := p.run t i label testName slot false w
    let (os, w'') := runSeries p t label testName slot rest w'
    (o :: os, w'')

/-- The run is done, or it was aborted by the failure that it names and ends with. -/
def Outcome.Closed (o : Outcome) : Prop :=
  (o.run.state = .done ∧ o.run.failure = none ∧ o.raised = none) ∨
    ∃ f, o.run.state = .aborted ∧ o.run.failure = some f ∧ o.raised = some f

/-- The run of an input from a world was left on its way and names no failure: its work has failed,
the failure has no text, and the run ends with what came of asking for one. -/
structure LeftOpen (p : Pipeline) (t : Instruments) (i : ProveInput) (label testName : Data)
    (slot : Slot) (w : World) (o : Outcome) : Prop where
  failure : o.run.failure = none
  cause : ∃ f asked, Halts p t i label testName slot w o.run f ∧ f.mute? = some asked ∧
    o.raised = some asked

/-- The failure that a run ends with and that is no error of the ledger. -/
def Outcome.escaping? (o : Outcome) : Option Failure :=
  match o.raised with
  | some (.ledger _) => none
  | other => other

/-- How a batch ends, told by the same runs one by one. -/
inductive BatchEnds (p : Pipeline) (t : Instruments) (label testName : Data) (slot : Slot)
    (inputs : List ProveInput) (w : World) : Except Failure (List Run) → World → Prop
  /-- Every run has ended well or with an error of the ledger. -/
  | whole {final : World}
      (hall : ∀ o ∈ (p.runSeries t label testName slot inputs w).1, o.escaping? = none)
      (hfinal : SameButLog (p.runSeries t label testName slot inputs w).2 final) :
      BatchEnds p t label testName slot inputs w
        (.ok ((p.runSeries t label testName slot inputs w).1.map (·.run))) final
  /-- The first run that has ended otherwise is the last. -/
  | cut {before after : List ProveInput} {i : ProveInput} {f : Failure} {final : World}
      (hinputs : inputs = before ++ i :: after)
      (hbefore : ∀ o ∈ (p.runSeries t label testName slot before w).1, o.escaping? = none)
      (hrun : (p.run t i label testName slot false
        (p.runSeries t label testName slot before w).2).1.escaping? = some f)
      (hfinal : SameButLog (p.run t i label testName slot false
        (p.runSeries t label testName slot before w).2).2 final) :
      BatchEnds p t label testName slot inputs w (.error f) final

section Series

variable {p t label testName slot}

theorem length_runSeries (inputs : List ProveInput) (w : World) :
    (p.runSeries t label testName slot inputs w).1.length = inputs.length := by
  induction inputs generalizing w with
  | nil => rfl
  | cons i rest ih => exact congrArg Nat.succ (ih _)

/-- Every run comes to an end of its own, unless its failure has no text. -/
theorem closed_run (i : ProveInput) (w : World) :
    (p.run t i label testName slot accept w).1.Closed ∨
      LeftOpen p t i label testName slot w (p.run t i label testName slot accept w).1 := by
  have haccounts := (run_ending p t i label testName slot accept w).accounts
  have hfailure := haccounts.failure
  rcases haccounts.course with ⟨hdone, -, hraised⟩ |
    ⟨run, f, hhalts, ⟨-, haborted, -, hraised⟩ | ⟨asked, hmute, rfl, hraised⟩⟩
  · rw [hdone, if_neg nofun] at hfailure
    exact .inl (.inl ⟨hdone, hfailure, hraised⟩)
  · rw [haborted, if_pos rfl] at hfailure
    exact .inl (.inr ⟨f, haborted, hfailure.trans hraised, hraised⟩)
  · rw [if_neg hhalts.ne_aborted] at hfailure
    exact .inr ⟨hfailure, f, asked, hhalts, hmute, hraised⟩

theorem closed_runSeries (inputs : List ProveInput) (w : World) :
    ∀ o ∈ (p.runSeries t label testName slot inputs w).1,
      o.Closed ∨ ∃ before i after, inputs = before ++ i :: after ∧
        LeftOpen p t i label testName slot (p.runSeries t label testName slot before w).2 o := by
  induction inputs generalizing w with
  | nil => exact fun _ ho => nomatch ho
  | cons i rest ih =>
    intro o ho
    rcases List.mem_cons.mp ho with rfl | ho
    · exact (closed_run false i w).imp_right fun hopen => ⟨[], i, rest, rfl, hopen⟩
    · refine (ih _ o ho).imp_right ?_
      rintro ⟨before, j, after, hinputs, hopen⟩
      exact ⟨i :: before, j, after, congrArg (i :: ·) hinputs, hopen⟩

/-- What a batch does between two runs is to write to the log, unless it ends. -/
theorem settle_cases (i : ProveInput) (o : Outcome) (w : World) :
    (o.escaping? = none ∧ ∃ w', settle i o w = (.ok (), w') ∧ SameButLog w w') ∨
      ∃ f, o.escaping? = some f ∧ settle i o w = (.error f, w) := by
  unfold settle Outcome.escaping?
  cases o.raised with
  | none => exact .inl ⟨rfl, w, rfl, .refl w⟩
  | some f =>
    cases f with
    | ledger e => exact .inl ⟨rfl, _, rfl, _, rfl⟩
    | _ => exact .inr ⟨_, rfl, rfl⟩

/-- A batch goes on as one that starts with the runs that are left. -/
theorem BatchEnds.cons {i : ProveInput} {rest : List ProveInput} {w final : World}
    {result : Except Failure (List Run)}
    (hrun : (p.run t i label testName slot false w).1.escaping? = none)
    (h : BatchEnds p t label testName slot rest (p.run t i label testName slot false w).2 result
      final) :
    BatchEnds p t label testName slot (i :: rest) w
      (result.map ((p.run t i label testName slot false w).1.run :: ·)) final := by
  have hcons : ∀ {os : List Outcome}, (∀ o ∈ os, o.escaping? = none) →
      ∀ o ∈ (p.run t i label testName slot false w).1 :: os, o.escaping? = none :=
    fun hos => List.forall_mem_cons.mpr ⟨hrun, hos⟩
  cases h with
  | whole hall hfinal => exact .whole (hcons hall) hfinal
  | @cut before after j f _ hinputs hbefore hcut hfinal =>
    have hinputs : i :: rest = (i :: before) ++ j :: after := congrArg (i :: ·) hinputs
    exact .cut hinputs (hcons hbefore) hcut hfinal

/-- The runs of a batch are those of the series, in worlds that have other logs. -/
theorem runEach_ends (inputs : List ProveInput) {w w' : World} (h : SameButLog w w') :
    BatchEnds p t label testName slot inputs w (p.runEach t label testName slot inputs w').1
      (p.runEach t label testName slot inputs w').2 := by
  induction inputs generalizing w w' with
  | nil => exact .whole (fun _ ho => nomatch ho) h
  | cons i rest ih =>
    obtain ⟨hend, hsame⟩ := p.logBlind_run t i label testName slot false w w' h
    have hrun : Act.always (p.run t i label testName slot false) w' =
        (.ok (p.run t i label testName slot false w).1,
          (p.run t i label testName slot false w').2) := by
      rw [← hend]
      rfl
    unfold runEach
    rw [Act.bind_eq_of_ok hrun]
    rcases settle_cases i (p.run t i label testName slot false w).1
      (p.run t i label testName slot false w').2 with ⟨hnone, w₁, hsettle, hlog⟩ | ⟨f, hf, hsettle⟩
    · rw [Act.bind_eq_of_ok hsettle]
      have hrest := (ih (hsame.trans hlog)).cons hnone
      rcases heach : p.runEach t label testName slot rest w₁ with ⟨e | runs, w₂⟩
      · rw [heach] at hrest
        rw [Act.bind_eq_of_error heach]
        exact hrest
      · rw [heach] at hrest
        rw [Act.bind_eq_of_ok heach]
        exact hrest
    · rw [Act.bind_eq_of_error hsettle]
      have hinputs : i :: rest = [] ++ i :: rest := rfl
      exact .cut hinputs (fun _ ho => nomatch ho) hf hsame

theorem BatchEnds.sameButLog {inputs : List ProveInput} {w final final' : World}
    {result : Except Failure (List Run)}
    (h : BatchEnds p t label testName slot inputs w result final)
    (hfinal : SameButLog final final') :
    BatchEnds p t label testName slot inputs w result final' := by
  cases h with
  | whole hall hsame => exact .whole hall (hsame.trans hfinal)
  | cut hinputs hbefore hrun hsame => exact .cut hinputs hbefore hrun (hsame.trans hfinal)

end Series

/-- Every run of a series is done or aborted and says which, unless its failure has no text, and one
follows for each input. A batch is such a series, up to what it writes to the log, as long as no run
ends with a failure that is no error of the ledger; the first that does ends the batch with that
failure. -/
theorem runBatch_isolates (inputs : List ProveInput) (w : World) :
    (p.runSeries t label testName slot inputs w).1.length = inputs.length ∧
      (∀ o ∈ (p.runSeries t label testName slot inputs w).1,
        o.Closed ∨ ∃ before i after, inputs = before ++ i :: after ∧
          LeftOpen p t i label testName slot (p.runSeries t label testName slot before w).2 o) ∧
      BatchEnds p t label testName slot inputs w (p.runBatch t label testName slot inputs w).1
        (p.runBatch t label testName slot inputs w).2 := by
  refine ⟨length_runSeries inputs w, closed_runSeries inputs w, ?_⟩
  have hends : BatchEnds p t label testName slot inputs w
      (p.runEach t label testName slot inputs w).1 (p.runEach t label testName slot inputs w).2 :=
    runEach_ends inputs (.refl w)
  unfold runBatch
  rcases heach : p.runEach t label testName slot inputs w with ⟨f | runs, w'⟩
  · rw [heach] at hends
    rw [Act.bind_eq_of_error heach]
    exact hends
  · rw [heach] at hends
    rw [Act.bind_eq_of_ok heach]
    exact hends.sameButLog ⟨_, rfl⟩

/-- A prover whose one object has no tag. -/
def untagging : Prover :=
  ⟨fun _ _ => .proved [.other (.tuple [.text [], .bytes [0]])] (.text "abc123"), .none⟩

/-- A batch of two inputs that ends with the first: the prover is not asked for the second. -/
theorem runBatch_stops :
    let p : Pipeline := ⟨untagging, agreeing, .default⟩
    let inputs := [ProofRecord.sample.input, ProofRecord.sample.input]
    ∃ f w', p.runBatch still (.text "main") (.text []) .baseline inputs
        (.of (.empty (.clear "store"))) = (.error f, w') ∧ w'.proverCalls = 1 := by
  intro p inputs
  have hstops : (match p.runBatch still (.text "main") (.text []) .baseline inputs
      (.of (.empty (.clear "store"))) with
      | (.error _, w') => decide (w'.proverCalls = 1)
      | (.ok _, _) => false) = true := by decide +kernel
  split at hstops
  · next f w' hrun => exact ⟨f, w', hrun, of_decide_eq_true hstops⟩
  · cases hstops

end Pipeline

end ProofLedger
