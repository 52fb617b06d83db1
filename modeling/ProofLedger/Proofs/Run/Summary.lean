import ProofLedger.Proofs.Run.Success
import ProofLedger.Proofs.Verification.Decision
import ProofLedger.Report

/-!
# What a summary says on the comparison

The section on the comparison is the last of a summary, so it is looked for at the end: what stands
before it has labels and messages in it, and these may be any text. A summary is written from the
record, the verification and the comparison that a run leaves, and `Shows` lists what these can be
at its end (`run_shows`).

`run_says` says that the last section is on a comparison exactly when the run has one. It says that
there was nothing to compare with when the run has noted this, and in one case more: when the run
was broken off after a verification (`Findings.BrokenOff`), because its record is not valid or
because the threshold is out of order. There may well be a baseline then. `run_says_untruly` is a
run that ends so.
-/

namespace ProofLedger

/-! ## The ends of pages -/

namespace Text

/-- The last character of a text before the line feed that ends it. -/
def Closes (c : Nat) (t : Text) : Prop := [c, 10] <:+ t

theorem Closes.unique {a b : Nat} {t : Text} (ha : Closes a t) (hb : Closes b t) : a = b := by
  obtain ⟨front, rfl⟩ := ha
  obtain ⟨front', h⟩ := hb
  have htails : [b, 10] = [a, 10] := List.append_inj_right' h rfl
  exact (List.cons.inj htails).1.symm

/-- A text that is closed in another way does not stand at the end. -/
theorem Closes.not_suffix {a b : Nat} {s t : Text} (hs : Closes a s) (ht : Closes b t)
    (hab : a ≠ b) : ¬ s <:+ t :=
  fun h => hab (Closes.unique (List.IsSuffix.trans hs h) ht)

/-- The last part stands at the end of what is joined. -/
theorem suffix_join (separator last : Text) (parts : List Text) :
    last <:+ join separator (parts ++ [last]) := by
  induction parts with
  | nil =>
    have hjoin : join separator [last] = last := List.intercalate_singleton
    exact ⟨[], hjoin.symm⟩
  | cons part parts ih =>
    have hne : parts ++ [last] ≠ [] := by simp
    rw [List.cons_append, join, List.intercalate_cons_of_ne_nil hne]
    exact ih.trans (List.suffix_append _ _)

end Text

namespace Report

/-- What ends the last line closes the page. -/
theorem closes_page (lines : List Text) {line : Text} {c : Nat} (h : [c] <:+ line) :
    Text.Closes c (page (lines ++ [line])) := by
  obtain ⟨front, hfront⟩ := h.trans (Text.suffix_join [10] line lines)
  exact ⟨front, by rw [page, ← hfront, List.append_assoc]; rfl⟩

theorem closes_record (r : ProofRecord) : Text.Closes 115 (record r) := by
  have hline : [115] <:+ ("- Duration: " : Text) ++ seconds r.duration.val :=
    (List.suffix_append _ _).trans (List.suffix_append _ _)
  have hpage := closes_page
    (heading ("## Record " ++ code r.id.val) :: ("- Source: " ++ code r.sourceLabel) ::
      (testLine r.testName ++
        ["- Timestamp: " ++ r.timestamp.text, inputLine r.input,
          "- Proof objects: " ++ Text.ofNat r.objects.length,
          "- Proof hash: " ++ code r.proofHash.val])) hline
  simpa only [List.cons_append, List.append_assoc, List.nil_append, record] using hpage

theorem closes_comparison (c : ComparisonReport) : Text.Closes 37 (comparison c) :=
  closes_page [heading ("## Comparison: " ++ c.verdict.text), verdictLine c.verdict, [],
    "| | Baseline | Candidate |", "|---|---|---|",
    row "Record" (code c.baselineId) (code c.candidateId),
    row "Proof hash" (code c.baselineHash) (code c.candidateHash),
    row "Duration" (seconds c.baselineDuration) (seconds c.candidateDuration), [],
    "- Hashes equal: " ++ yesNo c.hashesEqual, "- Duration delta: " ++ signedSeconds c.delta,
    "- Relative change: " ++ percentOr c.percent] (List.suffix_append _ _)

theorem closes_skippedComparison : Text.Closes 46 skippedComparison :=
  show [46, 10] <:+ skippedComparison by decide

/-- A summary ends with the section on the comparison, when there is one. -/
theorem suffix_runSummary {r : Option ProofRecord} {v : Option VerificationResult}
    {c : Option ComparisonReport} {last : Text} (h : comparisonPart r v c = [last]) :
    last <:+ runSummary r v c := by
  rw [runSummary, h, ← List.append_assoc]
  exact Text.suffix_join _ _ _

/-- Without a verification a summary ends with the record, or with the title. -/
theorem closes_unverified (r : Option ProofRecord) :
    Text.Closes 115 (runSummary r none none) ∨ Text.Closes 116 (runSummary r none none) := by
  cases r with
  | none => exact .inr (show [116, 10] <:+ runSummary none none none by decide)
  | some r =>
    have hlast := Text.suffix_join [10] (record r) ["# Proof regression report\n"]
    exact .inl ((closes_record r).trans hlast)

section Last

variable {r : Option ProofRecord} {v : Option VerificationResult} {c : Option ComparisonReport}

/-- A summary says that there was nothing to compare with when it has a verification and no
comparison. -/
theorem skippedComparison_suffix_iff (hrecord : v.isSome = true → r.isSome = true) :
    skippedComparison <:+ runSummary r v c ↔ v.isSome = true ∧ c = none := by
  cases c with
  | some c =>
    have hpage := (closes_comparison c).trans
      (suffix_runSummary (r := r) (v := v) (c := some c) rfl)
    exact iff_of_false (closes_skippedComparison.not_suffix hpage (by decide)) fun h => nomatch h.2
  | none =>
    cases v with
    | some v =>
      obtain ⟨r, rfl⟩ := Option.isSome_iff_exists.mp (hrecord rfl)
      exact iff_of_true (suffix_runSummary rfl) ⟨rfl, rfl⟩
    | none =>
      refine iff_of_false ?_ fun h => nomatch h.1
      rcases closes_unverified r with hpage | hpage
      · exact closes_skippedComparison.not_suffix hpage (by decide)
      · exact closes_skippedComparison.not_suffix hpage (by decide)

theorem exists_comparison_suffix_iff (hrecord : v.isSome = true → r.isSome = true) :
    (∃ c', comparison c' <:+ runSummary r v c) ↔ c.isSome = true := by
  cases c with
  | some c => exact iff_of_true ⟨c, suffix_runSummary rfl⟩ rfl
  | none =>
    refine iff_of_false ?_ nofun
    rintro ⟨c', hc'⟩
    have hother : ∀ {b : Nat}, Text.Closes b (runSummary r v none) → 37 ≠ b → False :=
      fun hpage hne => (closes_comparison c').not_suffix hpage hne hc'
    cases v with
    | some v =>
      obtain ⟨r, rfl⟩ := Option.isSome_iff_exists.mp (hrecord rfl)
      exact hother (closes_skippedComparison.trans (suffix_runSummary rfl)) (by decide)
    | none =>
      rcases closes_unverified r with hpage | hpage
      · exact hother hpage (by decide)
      · exact hother hpage (by decide)

end Last

end Report

/-! ## What a summary is written from -/

/-- What a run has found, and whether it has noted that there was nothing to compare with. -/
structure Findings where
  record : Option ProofRecord
  verification : Option VerificationResult
  comparison : Option ComparisonReport
  skipped : Bool

/-- The record was verified, and then neither compared nor noted as one without a reference. -/
structure Findings.BrokenOff (f : Findings) : Prop where
  verified : f.verification.isSome = true
  uncompared : f.comparison = none
  unnoted : f.skipped = false

namespace Run

def findings (run : Run) : Findings :=
  ⟨run.record, run.verification, run.comparison, run.comparisonSkipped⟩

/-- The summary that is written of the run. -/
def summary (run : Run) : Text := Report.runSummary run.record run.verification run.comparison

theorem findings_of_advance {run run' : Run} {s : RunState} {line : LogLine}
    (h : run.advance s = .ok (run', line)) : run'.findings = run.findings := by
  rw [advance] at h
  split at h
  · cases h
    rfl
  · cases h

theorem findings_abort (run : Run) (f : Failure) : (run.abort f).1.findings = run.findings := by
  unfold abort
  split
  · rfl
  · dsimp only
    split
    · next h => exact (findings_of_advance h :)
    · rfl

end Run

namespace Pipeline

open Directory

/-! ## What the end of a run leaves of its findings -/

namespace Stage

variable {α β : Type}

/-- The stage finds nothing and takes nothing back. -/
def Keeps (s : Stage α) : Prop := ∀ run w, (s run w).1.2.findings = run.findings

theorem Keeps.bind {s : Stage α} {k : α → Stage β} (hs : s.Keeps) (hk : ∀ x, (k x).Keeps) :
    (s >>= k).Keeps := by
  intro run w
  have hfirst := hs run w
  rcases h : s run w with ⟨⟨f | x, run'⟩, w'⟩
  · rw [bind_eq_of_error h]
    rwa [h] at hfirst
  · rw [bind_eq_of_ok h, hk x run' w']
    rwa [h] at hfirst

theorem keeps_ofAct (a : Act α) : (ofAct a).Keeps := fun _ _ => rfl

theorem keeps_advance (s : RunState) : (advance s).Keeps := by
  intro run w
  unfold advance
  split
  · next h => exact Run.findings_of_advance h
  · rfl

end Stage

/-- Whether a record becomes the baseline is no finding. -/
theorem keeps_settleStage (slot : Slot) (accept : Bool) (r : ProofRecord)
    (c : Option ComparisonReport) : (settleStage slot accept r c).Keeps := by
  have hpromote : (promoteStage r c accept).Keeps := by
    unfold promoteStage
    split
    · exact Stage.keeps_ofAct _
    · exact (Stage.keeps_ofAct _).bind fun _ _ _ => rfl
  cases slot with
  | history => exact Stage.keeps_advance .done
  | baseline => exact hpromote.bind fun _ => Stage.keeps_advance .done

section Runs

variable (p : Pipeline) (t : Instruments) (i : ProveInput) (label testName : Data) (slot : Slot)
  (accept : Bool) (w : World)

/-- A run ends with what its stages have found. -/
theorem findings_run : (p.run t i label testName slot accept w).1.run.findings =
    (p.stages t i label testName slot accept (.start slot) w).1.2.findings := by
  unfold run
  rcases p.stages t i label testName slot accept (.start slot) w with ⟨⟨f | u, run⟩, w'⟩
  · exact run.findings_abort f
  · rfl

/-- What a run can have found at its end, and what it was up to then. The reference is read at the
start, so it is there or not whatever the findings are. -/
inductive Shows : Findings → Prop where
  | unverified (r : Option ProofRecord) : Shows ⟨r, none, none, false⟩
  | rejected (r : ProofRecord) {v : VerificationResult} (invalid : v.isValid = false) :
      Shows ⟨some r, some v, none, false⟩
  | uncompared (r : ProofRecord) {v : VerificationResult} {b : ProofRecord} {e : ThresholdFault}
      (valid : v.isValid = true) (read : (reference slot w).1 = .ok (some b))
      (fault : ProofLedger.compare b r p.threshold = .error e) :
      Shows ⟨some r, some v, none, false⟩
  | skipped (r : ProofRecord) {v : VerificationResult} (valid : v.isValid = true)
      (read : (reference slot w).1 = .ok none) : Shows ⟨some r, some v, none, true⟩
  | compared (r : ProofRecord) {v : VerificationResult} {b : ProofRecord} {c : ComparisonReport}
      (valid : v.isValid = true) (read : (reference slot w).1 = .ok (some b))
      (report : ProofLedger.compare b r p.threshold = .ok c) :
      Shows ⟨some r, some v, some c, false⟩

theorem run_shows : Shows p slot w (p.run t i label testName slot accept w).1.run.findings := by
  rw [findings_run]
  rcases hread : (reference slot w).1 with f | ref
  · have hrun : reference slot w = (.error f, w) := Prod.ext hread (reference_snd slot w)
    rw [stages, Stage.bind_eq_of_error (Stage.ofAct_eq hrun (.start slot))]
    exact .unverified none
  rw [stages_of_reference p t i label testName accept hread]
  rcases captureStage_cases p t i label testName hread with
    ⟨r, w₁, w₁', hcaptured, hcapture, hsame⟩ | ⟨f, w₁, -, hcapture, -⟩
  rotate_left
  · rw [Stage.bind_eq_of_error hcapture]
    exact .unverified none
  rw [Stage.bind_eq_of_ok hcapture]
  rcases verifyStage_cases hcaptured hsame with
    ⟨v, w₂, w₂', hverified, hverify, -⟩ | ⟨f, v, w₂, -, hverify, -, hinvalid⟩
  rotate_left
  · rw [Stage.bind_eq_of_error hverify]
    cases v with
    | none => exact .unverified (some r)
    | some v => exact .rejected r (hinvalid v rfl)
  rw [Stage.bind_eq_of_ok hverify]
  rcases compareStage_cases hverified hread w₂' with
    ⟨c, w₃, hcompare, -, hreport⟩ | ⟨f, w₃, -, hcompare, -, b, e, rfl, hfault⟩
  rotate_left
  · rw [Stage.bind_eq_of_error hcompare]
    exact .uncompared r hverified.valid hread hfault
  rw [Stage.bind_eq_of_ok hcompare, keeps_settleStage]
  cases ref with
  | none =>
    cases hreport
    exact .skipped r hverified.valid hread
  | some b =>
    rw [Option.mapM_some] at hreport
    obtain ⟨c, hc, rfl⟩ := map_eq_ok hreport
    exact .compared r hverified.valid hread hc

variable {p slot w} {f : Findings}

/-! ## What is read off the findings -/

theorem Shows.recorded (h : Shows p slot w f) :
    f.verification.isSome = true → f.record.isSome = true := by
  cases h with
  | unverified => exact nofun
  | _ => exact fun _ => rfl

theorem Shows.uncompared_of_noted (h : Shows p slot w f) (hnoted : f.skipped = true) :
    f.verification.isSome = true ∧ f.comparison = none := by
  cases h with
  | skipped => exact ⟨rfl, rfl⟩
  | _ => cases hnoted

/-- What is verified and not compared was noted as such, or the run was broken off. -/
theorem Shows.uncompared_iff (h : Shows p slot w f) :
    f.verification.isSome = true ∧ f.comparison = none ↔ f.skipped = true ∨ f.BrokenOff := by
  constructor
  · rintro ⟨hverified, huncompared⟩
    cases hskipped : f.skipped with
    | true => exact .inl rfl
    | false => exact .inr ⟨hverified, huncompared, hskipped⟩
  · rintro (hnoted | hbroken)
    · exact h.uncompared_of_noted hnoted
    · exact ⟨hbroken.verified, hbroken.uncompared⟩

theorem Shows.noted_iff (h : Shows p slot w f) :
    f.skipped = true ↔ (∃ v ∈ f.verification, v.isValid = true) ∧
      (reference slot w).1 = .ok none := by
  cases h with
  | unverified => exact iff_of_false nofun fun ⟨⟨v, hv, _⟩, _⟩ => nomatch hv
  | rejected r hinvalid =>
    refine iff_of_false nofun ?_
    rintro ⟨⟨v, hv, hvalid⟩, -⟩
    cases hv
    cases hinvalid.symm.trans hvalid
  | skipped r hvalid hread => exact iff_of_true rfl ⟨⟨_, rfl, hvalid⟩, hread⟩
  | uncompared r hvalid hread | compared r hvalid hread =>
    exact iff_of_false nofun fun h => nomatch hread.symm.trans h.2

/-- A comparison fails when the threshold is out of order, whatever the records. -/
theorem compare_eq_error_iff {b r : ProofRecord} {threshold : Threshold} {e : ThresholdFault} :
    ProofLedger.compare b r threshold = .error e ↔ threshold.check = .error e := by
  rw [ProofLedger.compare]
  cases threshold.check with
  | error e' =>
    refine ⟨fun h => ?_, fun h => ?_⟩
    · cases h
      rfl
    · cases h
      rfl
  | ok q =>
    refine iff_of_false (fun h => ?_) (fun h => ?_)
    · cases h
    · cases h

theorem Shows.brokenOff_iff (h : Shows p slot w f) :
    f.BrokenOff ↔ (∃ v ∈ f.verification, v.isValid = false) ∨
      f.verification.isSome = true ∧ (∃ b, (reference slot w).1 = .ok (some b)) ∧
        ∃ e, p.threshold.check = .error e := by
  cases h with
  | unverified =>
    refine iff_of_false (fun h => nomatch h.verified) ?_
    rintro (⟨v, hv, -⟩ | ⟨hv, -⟩) <;> cases hv
  | rejected r hinvalid => exact iff_of_true ⟨rfl, rfl, rfl⟩ (.inl ⟨_, rfl, hinvalid⟩)
  | uncompared r hvalid hread hfault =>
    exact iff_of_true ⟨rfl, rfl, rfl⟩
      (.inr ⟨rfl, ⟨_, hread⟩, _, compare_eq_error_iff.mp hfault⟩)
  | skipped r hvalid hread =>
    refine iff_of_false (fun h => nomatch h.unnoted) ?_
    rintro (⟨v, hv, hinvalid⟩ | ⟨-, ⟨b, hb⟩, -⟩)
    · cases hv
      cases hinvalid.symm.trans hvalid
    · cases hread.symm.trans hb
  | compared r hvalid hread hreport =>
    refine iff_of_false (fun h => nomatch h.uncompared) ?_
    rintro (⟨v, hv, hinvalid⟩ | ⟨-, -, e, hfault⟩)
    · cases hv
      cases hinvalid.symm.trans hvalid
    · cases hreport.symm.trans (compare_eq_error_iff.mpr hfault)

end Runs

/-! ## What the summary says of the run -/

/-- What the last section of a run's summary is, and when the run has left it like that. -/
structure Says (p : Pipeline) (slot : Slot) (w : World) (run : Run) : Prop where
  /-- The last section says that there was nothing to compare with. -/
  skipped : Report.skippedComparison <:+ run.summary ↔
    run.comparisonSkipped = true ∨ run.findings.BrokenOff
  /-- The last section is on a comparison. -/
  compared : (∃ c, Report.comparison c <:+ run.summary) ↔ run.comparison.isSome = true
  report : ∀ c ∈ run.comparison, Report.comparison c <:+ run.summary
  /-- The run has noted that its record, which is valid, has no reference. -/
  noted : run.comparisonSkipped = true ↔ (∃ v ∈ run.verification, v.isValid = true) ∧
    (reference slot w).1 = .ok none
  /-- The record is not valid, whether it has a reference or not, or it has one and the threshold
  is out of order. -/
  brokenOff : run.findings.BrokenOff ↔ (∃ v ∈ run.verification, v.isValid = false) ∨
    run.verification.isSome = true ∧ (∃ b, (reference slot w).1 = .ok (some b)) ∧
      ∃ e, p.threshold.check = .error e
  aborted : run.findings.BrokenOff → run.state = .aborted

/-- What breaks a run off after its verification has a text: the record is not valid, or the
threshold is out of order. -/
theorem Fails.told_of_brokenOff {p : Pipeline} {t : Instruments} {i : ProveInput}
    {label testName : Data} {slot : Slot} {w : World} {run : Run} {f : Failure}
    (h : Fails p t i label testName slot w run f) (hbroken : run.findings.BrokenOff) :
    f.mute? = none := by
  cases h with
  | reference | capture | verify => cases hbroken.verified
  | invalid => rfl
  | @compare _ _ _ _ e =>
    cases e with
    | notPositive q =>
      rw [Failure.ofThresholdFault]
      split <;> rfl
    | tooLarge n => rfl
  | @promote ref r v c _ _ _ _ hreport =>
    have huncompared : c = none := hbroken.uncompared
    have hunnoted : ref.isNone = false := hbroken.unnoted
    cases ref with
    | none => cases hunnoted
    | some b =>
      rw [Option.mapM_some, huncompared] at hreport
      obtain ⟨report, -, hnone⟩ := map_eq_ok hreport
      cases hnone

/-- A run that is done has either compared its record or noted that it need not. -/
theorem Accounts.aborted_of_brokenOff {p : Pipeline} {t : Instruments} {i : ProveInput}
    {label testName : Data} {slot : Slot} {w : World} {d' : Directory} {o : Outcome}
    (h : Accounts p t i label testName slot w o d') (hbroken : o.run.findings.BrokenOff) :
    o.run.state = .aborted := by
  rcases h.course with ⟨hdone, -, -⟩ | ⟨run, f, hhalts, ⟨-, haborted, -⟩ | ⟨asked, hmute, rfl, -⟩⟩
  · obtain ⟨r, v, -, -, -, -, -, hcompared⟩ := h.done hdone
    have hsome : o.run.findings.comparison.isSome = true := hcompared.mpr hbroken.unnoted
    rw [hbroken.uncompared] at hsome
    cases hsome
  · exact haborted
  · cases (hhalts.cause.told_of_brokenOff hbroken).symm.trans hmute

/-- The summary of a run, however it has ended, is on a comparison when there was one, and says
that there was nothing to compare with when the run has noted this or was broken off after its
verification. -/
theorem run_says (p : Pipeline) (t : Instruments) (i : ProveInput) (label testName : Data)
    (slot : Slot) (accept : Bool) (w : World) :
    Says p slot w (p.run t i label testName slot accept w).1.run where
  skipped :=
    have hshows := run_shows p t i label testName slot accept w
    (Report.skippedComparison_suffix_iff hshows.recorded).trans hshows.uncompared_iff
  compared :=
    Report.exists_comparison_suffix_iff (run_shows p t i label testName slot accept w).recorded
  report c hc := by
    rw [Run.summary, Option.mem_def.mp hc]
    exact Report.suffix_runSummary rfl
  noted := (run_shows p t i label testName slot accept w).noted_iff
  brokenOff := (run_shows p t i label testName slot accept w).brokenOff_iff
  aborted := (run_ending p t i label testName slot accept w).accounts.aborted_of_brokenOff

/-- An oracle that finds no proof valid. -/
def rejecting : Oracle := ⟨fun _ _ _ => .judged (.bool false), .none⟩

/-- A verification that finds a record not valid ends the run. -/
theorem verifyStage_of_invalid {p : Pipeline} {t : Instruments} {r : ProofRecord} (slot : Slot)
    (h : ∀ w, ∃ v w', Verification.verify t p.oracle p.checks r w = (.ok v, w') ∧
      v.isValid = false) (w : World) :
    ∃ v w', p.verifyStage t r (persisted slot r) w =
      ((.error (.ledger (.verification v)), verifying slot r (some v)), w') := by
  obtain ⟨w₀, hmove, -⟩ := Stage.exists_advance (r := persisted slot r) (s := .verifying) rfl w
  obtain ⟨v, w', hverify, hinvalid⟩ := h w₀
  refine ⟨v, w', ?_⟩
  rw [verifyStage, Stage.bind_eq_of_ok hmove, Stage.bind_eq_of_ok (Stage.ofAct_eq hverify _),
    Stage.bind_eq_of_ok rfl, hinvalid]
  rfl

/-- The rejecting oracle has every record that it is asked about found not valid. -/
theorem verify_rejecting (r : ProofRecord) (w : World) :
    ∃ v w', Verification.verify still rejecting .none r w = (.ok v, w') ∧ v.isValid = false := by
  have hreturns : Verification.Returns .none r ⟨none, none⟩ := ⟨rfl, rfl⟩
  have hpasses : Verification.Passes ⟨none, none⟩ r := ⟨nofun, nofun⟩
  obtain ⟨-, hreported⟩ := Verification.verify_of_judged (t := still) (o := rejecting) (w := w)
    hreturns hpasses rfl rfl rfl
  have hreported := hreported nofun
  obtain ⟨v, hv, htells, -⟩ := hreported.result _ rfl
  exact ⟨v, _, Prod.ext hv rfl, htells.isValid⟩

/-- The name that the steady prover's record gets. -/
theorem id_of_steadyRecord {r : ProofRecord} (h : steadyRecord = .ok r) :
    r.id.val = "main-20240101T000000000000Z" := by
  have hname : steadyRecord.toOption.map (·.id.val) = some "main-20240101T000000000000Z" := by
    decide +kernel
  rw [h] at hname
  exact Option.some.inj hname

/-- The steady prover's record is stored wherever it is new. -/
theorem exists_captured_steady (oracle : Oracle) (slot : Slot) {l : List ProofRecord} {w : World}
    (hledger : Represents w.store l) (hfault : w.storeFault = none)
    (hfresh : ("main-20240101T000000000000Z" : Text) ∉ names l) :
    ∃ r w', captureStage ⟨steady, oracle, .default⟩ still ProofRecord.sample.input (.text "main")
      (.text []) (.start slot) w = ((.ok r, persisted slot r), w') := by
  obtain ⟨r, hmake, -, hshort, hfinite, hfits, htexts⟩ := exists_steadyRecord
  obtain ⟨w₀, hmove, hlater⟩ := Stage.exists_later (r := .start slot) (s := .capturing) rfl w
  have hmade := Capture.record_eq (p := steady) (t := still) (w := w₀) rfl rfl hmake
  have hnamed : Named r := ⟨Capture.record_exact _ _ _ _ _ _ _ _ hmade, hshort⟩
  obtain ⟨w₁, hcapture, -⟩ := capture_of_record hmade (hlater.store ▸ hledger)
    (hlater.storeFault.trans hfault) hnamed (id_of_steadyRecord hmake ▸ hfresh)
    (exists_documentOctets hfinite hfits htexts)
  obtain ⟨w₂, hstored, -⟩ := Stage.exists_advance
    (r := { capturing slot with record := some r }) (s := .persisted) rfl w₁
  refine ⟨r, w₂, ?_⟩
  rw [captureStage, Stage.bind_eq_of_ok hmove, Stage.bind_eq_of_ok (Stage.ofAct_eq hcapture _),
    Stage.bind_eq_of_ok rfl]
  exact Stage.bind_eq_of_ok hstored

/-- A store with one record, which is its baseline. -/
theorem exists_based :
    ∃ d : Directory, Represents d [ProofRecord.sample] ∧ d.baseline = .ok .sample := by
  have hempty := represents_empty "store"
  have hwritten : ∃ content, documentOctets .sample = .ok content :=
    exists_documentOctets (by decide) (ProofRecord.fits_of_lt (by decide)) (by decide)
  obtain ⟨d, hstores⟩ : ∃ d, Stores .sample (.empty (.clear "store")) d :=
    ⟨_, (putHistory_ends _ _).of_ok
      ((hempty.putHistory_ok_iff named_sample).mpr ⟨nofun, hwritten⟩)⟩
  have hledger : Represents d [ProofRecord.sample] := hempty.stores named_sample.exact hstores
  have hother : d.pointed ≠ .ok (.text ProofRecord.sample.id.val) := by
    rcases hledger.pointed_cases with ⟨-, hpointed⟩ | ⟨b, -, hpointer, -⟩
    · rw [hpointed]
      exact nofun
    · cases hpointer.symm.trans hstores.pointer
  have hpromotes := (putBaseline_ends _ _).of_ok
    (hledger.putBaseline_ok List.mem_cons_self hother)
  obtain ⟨hledger, -, hbaseline⟩ := hledger.promoted List.mem_cons_self hpromotes
  exact ⟨_, hledger, hbaseline⟩

/-- The steady prover's proof, rejected in a store that has a baseline. The summary says that there
was nothing to compare with, and the run has noted no such thing. -/
theorem run_says_untruly : ∃ w : World, w.store.baseline = .ok .sample ∧
    let run := ((⟨steady, rejecting, .default⟩ : Pipeline).run still ProofRecord.sample.input
      (.text "main") (.text []) .baseline false w).1.run
    Report.skippedComparison <:+ run.summary ∧ run.comparisonSkipped = false := by
  obtain ⟨d, hledger, hbaseline⟩ := exists_based
  obtain ⟨ref, hread, -⟩ := exists_reference (w := .of d) .baseline hledger nofun
  obtain ⟨r, w₁, hcapture⟩ := exists_captured_steady rejecting .baseline (w := .of d) hledger rfl
    (by decide)
  obtain ⟨v, w₂, hverify⟩ := verifyStage_of_invalid (p := ⟨steady, rejecting, .default⟩)
    .baseline (verify_rejecting r) w₁
  have hstages : stages ⟨steady, rejecting, .default⟩ still ProofRecord.sample.input
      (.text "main") (.text []) .baseline false (.start .baseline) (.of d) =
        ((.error (.ledger (.verification v)), verifying .baseline r (some v)), w₂) :=
    (Stage.bind_eq_of_ok (Stage.ofAct_eq hread _)).trans ((Stage.bind_eq_of_ok hcapture).trans
      (Stage.bind_eq_of_error hverify))
  obtain ⟨w₃, hrun, -⟩ := run_of_error hstages rfl
  refine ⟨.of d, hbaseline, ?_⟩
  rw [hrun]
  exact ⟨Report.suffix_runSummary rfl, rfl⟩

end Pipeline

end ProofLedger
