import ProofLedger.Proofs.Reference.Verdict
import ProofLedger.Proofs.Verification.Fit

/-!
# How verification decides

A record passes the early checks or fails one of them first (`Passes`, `Fails`), and this alone
says whether the oracle is asked. `verify_decides`: a record that fails is found invalid with the
code of that check, and no oracle has a part in it; a record that passes is found valid when the
oracle, asked once about its input and objects, says exactly that, and any other verdict rejects it;
an oracle without a judgment leaves no result.
-/

namespace ProofLedger.Verification

open ProofShape

/-! ## What is reported -/

/-- A verification that ends with a result, so many questions to the oracle later; only a time
that UTC does not reach keeps the result away. -/
structure Reported (r : ProofRecord) (m : Moment) (method : Method) (fault : Option ErrorDetail)
    (calls : Nat) (ending : Except Failure VerificationResult × World) : Prop where
  asked : ending.2.oracleCalls = calls
  result : ∀ u, m.utc? = some u →
    ∃ v, ending.1 = .ok v ∧ Tells r method fault v ∧ v.timestamp = u.fullText
  lost : m.utc? = none → ending.1 = .error (.fault (.time .outOfRange))

/-- The result of a verification that is reported. -/
theorem Reported.tells {r : ProofRecord} {m : Moment} {method : Method}
    {fault : Option ErrorDetail} {calls : Nat} {ending : Except Failure VerificationResult × World}
    (h : Reported r m method fault calls ending) {v : VerificationResult}
    (hv : ending.1 = .ok v) : Tells r method fault v := by
  cases hutc : m.utc? with
  | none => cases (h.lost hutc).symm.trans hv
  | some u =>
    obtain ⟨v', hv', htells, -⟩ := h.result u hutc
    cases hv'.symm.trans hv
    exact htells

section Decision

variable {t : Instruments} {o : Oracle} {checks : Prechecks} {r : ProofRecord} {e : Evidence}
  {w : World} {m : Moment}

/-- A verification that comes to its last step. -/
theorem reported_of_finish (hclock : t.clock w.clockReads = .ok m) (haware : m.isAware = true)
    {w' : World} (hlater : Act.Later 0 w w') (started : Double) (method : Method)
    (fault : Option ErrorDetail) :
    Reported r m method fault w'.oracleCalls (finish t r started method fault w') := by
  have hreads : w'.clockReads = w.clockReads := hlater.clockReads
  rw [← hreads] at hclock
  obtain ⟨w'', -, hcalls, hend⟩ := finish_run (r := r) started method fault hclock
  cases hutc : m.utc? with
  | some u =>
    rw [Moment.format_eq haware hutc] at hend
    obtain ⟨v, hrun, htells, hstamp⟩ := hend
    rw [hrun]
    refine ⟨hcalls, fun u' hu' => ⟨v, rfl, htells, ?_⟩, fun hnone => ?_⟩
    · rw [hstamp, Option.some.inj (hutc.symm.trans hu')]
    · cases hutc.symm.trans hnone
  | none =>
    have hformat : m.format = .error .outOfRange := by
      simp only [Moment.format, haware, if_true, hutc]
    rw [hformat] at hend
    rw [hend]
    refine ⟨hcalls, fun u hu => ?_, fun _ => rfl⟩
    cases hutc.symm.trans hu

/-- A record that fails an early check is reported with the code of that check, and no oracle has
a part in it. -/
theorem verify_of_fails (hreturns : Returns checks r e) (hshown : ∀ s ∈ e.shape?, s.Showable)
    (hclock : t.clock w.clockReads = .ok m) (haware : m.isAware = true) {code : ErrorCode}
    (hfails : Fails e r code) :
    (∃ fault, fault.code = code.text ∧
      Reported r m .precheck (some fault) w.oracleCalls (verify t o checks r w)) ∧
    ∀ o', verify t o' checks r w = verify t o checks r w := by
  obtain ⟨found, hfound, rfl⟩ := findMismatch_of_fails hreturns hshown hfails
  obtain ⟨started, w', hrun, hlater, hcalls⟩ := verify_of_mismatch (t := t) hfound w
  refine ⟨⟨detail found, rfl, ?_⟩, fun o' => by rw [hrun o', hrun o]⟩
  rw [hrun o, ← hcalls]
  exact reported_of_finish hclock haware hlater started _ _

/-- The verdict on a record that passes the early checks: true finds it valid, anything else
rejects it. -/
theorem verify_of_judged (hreturns : Returns checks r e) (hpasses : Passes e r)
    (hclock : t.clock w.clockReads = .ok m) (haware : m.isAware = true) {verdict : Data}
    (hjudge : o.judge w.oracleCalls r.input r.objects = .judged verdict) :
    (verdict = .bool true →
      Reported r m .oracle none (w.oracleCalls + 1) (verify t o checks r w)) ∧
    (verdict ≠ .bool true →
      Reported r m .oracle (some rejection) (w.oracleCalls + 1) (verify t o checks r w)) := by
  obtain ⟨started, w', hrun, hlater, hcalls⟩ :=
    verify_of_clear (t := t) (findMismatch_of_passes hreturns hpasses) w
  rw [hrun o, hjudge, ← hcalls]
  refine ⟨fun htrue => ?_, fun hother => ?_⟩
  · subst htrue
    obtain ⟨w'', hend, hlater', hcalls'⟩ := conclude_true (t := t) (r := r) started w'
    rw [hend, ← hcalls']
    exact reported_of_finish hclock haware (hlater.trans hlater') started _ _
  · obtain ⟨w'', hend, hlater', hcalls'⟩ := conclude_other (t := t) (r := r) started hother w'
    rw [hend, ← hcalls']
    exact reported_of_finish hclock haware (hlater.trans hlater') started _ _

/-- An oracle that comes to no judgment on a record that passes the early checks ends the
verification. -/
theorem verify_of_unjudged (hreturns : Returns checks r e) (hpasses : Passes e r)
    {f : Failure} (hjudge : ∀ started, conclude t r started
      (o.judge w.oracleCalls r.input r.objects) = Act.raise f) :
    ∃ w', verify t o checks r w = (.error f, w') ∧ w'.oracleCalls = w.oracleCalls + 1 := by
  obtain ⟨started, w', hrun, -, hcalls⟩ :=
    verify_of_clear (t := t) (findMismatch_of_passes hreturns hpasses) w
  exact ⟨w', by rw [hrun o, hjudge started]; rfl, hcalls⟩

/-- A result is valid when every check was passed and the oracle said exactly that. -/
theorem isValid_iff (hreturns : Returns checks r e) (hshown : ∀ s ∈ e.shape?, s.Showable)
    (hclock : t.clock w.clockReads = .ok m) (haware : m.isAware = true) {v : VerificationResult}
    {w' : World} (hrun : verify t o checks r w = (.ok v, w')) : v.isValid = true ↔
      Passes e r ∧ o.judge w.oracleCalls r.input r.objects = .judged (.bool true) := by
  have hok : (verify t o checks r w).1 = .ok v := congrArg Prod.fst hrun
  rcases passes_or_fails e r with hpasses | ⟨code, hfails⟩
  · cases hjudge : o.judge w.oracleCalls r.input r.objects with
    | judged verdict =>
      obtain ⟨htrue, hother⟩ := verify_of_judged hreturns hpasses hclock haware hjudge
      by_cases h : verdict = .bool true
      · rw [((htrue h).tells hok).isValid, h]
        simp [hpasses]
      · rw [((hother h).tells hok).isValid]
        simp [h]
    | failed diagnostic =>
      obtain ⟨w'', hend, -⟩ :=
        verify_of_unjudged hreturns hpasses fun started => by rw [hjudge, conclude]
      cases hend.symm.trans hrun
    | raised f =>
      obtain ⟨w'', hend, -⟩ :=
        verify_of_unjudged hreturns hpasses fun started => by rw [hjudge, conclude]
      cases hend.symm.trans hrun
  · obtain ⟨⟨fault, -, hreported⟩, -⟩ := verify_of_fails hreturns hshown hclock haware hfails
    rw [(hreported.tells hok).isValid]
    simp [hfails.not_passes]

end Decision

/-- The early checks decide whether the oracle is asked, and with it they decide what is reported.
Of the oracle only its one answer on the input and the objects of the record matters, and nothing
if an early check fails. -/
theorem verify_decides (t : Instruments) (o : Oracle) (checks : Prechecks) (r : ProofRecord)
    (e : Evidence) (w : World) (m : Moment) (hreturns : Returns checks r e)
    (hshown : ∀ s ∈ e.shape?, s.Showable) (hclock : t.clock w.clockReads = .ok m)
    (haware : m.isAware = true) :
    (∀ code, Fails e r code →
      (∃ fault, fault.code = code.text ∧
        Reported r m .precheck (some fault) w.oracleCalls (verify t o checks r w)) ∧
      ∀ o', verify t o' checks r w = verify t o checks r w) ∧
    (Passes e r →
      (∀ verdict, o.judge w.oracleCalls r.input r.objects = .judged verdict →
        (verdict = .bool true →
          Reported r m .oracle none (w.oracleCalls + 1) (verify t o checks r w)) ∧
        (verdict ≠ .bool true → ∃ fault, fault.code = ErrorCode.oracleRejected.text ∧
          Reported r m .oracle (some fault) (w.oracleCalls + 1) (verify t o checks r w))) ∧
      (∀ diagnostic, o.judge w.oracleCalls r.input r.objects = .failed diagnostic →
        ∃ w', verify t o checks r w =
            (.error (.ledger (.oracleUnavailable r.id.val diagnostic)), w') ∧
          w'.oracleCalls = w.oracleCalls + 1) ∧
      ∀ o', o'.judge w.oracleCalls r.input r.objects = o.judge w.oracleCalls r.input r.objects →
        verify t o' checks r w = verify t o checks r w) ∧
    ((∃ code, Fails e r code) ↔ ¬ Passes e r) ∧
    ∀ v w', verify t o checks r w = (.ok v, w') → (v.isValid = true ↔
      Passes e r ∧ o.judge w.oracleCalls r.input r.objects = .judged (.bool true)) := by
  refine ⟨fun code hfails => verify_of_fails hreturns hshown hclock haware hfails,
    fun hpasses => ⟨fun verdict hjudge => ?_, fun diagnostic hjudge => ?_, fun o' hsame => ?_⟩,
    exists_fails_iff e r, fun v w' hrun => isValid_iff hreturns hshown hclock haware hrun⟩
  · obtain ⟨htrue, hother⟩ := verify_of_judged hreturns hpasses hclock haware hjudge
    exact ⟨htrue, fun h => ⟨rejection, rfl, hother h⟩⟩
  · exact verify_of_unjudged hreturns hpasses fun started => by rw [hjudge, conclude]
  · obtain ⟨started, w', hrun, -⟩ :=
      verify_of_clear (t := t) (findMismatch_of_passes hreturns hpasses) w
    rw [hrun o', hrun o, hsame]

/-- A shape and a hash, as the sample has them. -/
def sampleEvidence : Evidence := ⟨some ⟨some 1, [("merkle", 1)], ["merkle"]⟩, some "ab"⟩

/-- The sample passes the checks on its shape and its hash, but a verdict that only counts as true
rejects it. -/
theorem verify_decides_sample : ∃ v w',
    verify still ⟨fun _ _ _ => .judged (.int 1), .none⟩
      ⟨sampleEvidence.shape?.map fun s _ => .ok s, sampleEvidence.hash?.map fun h _ _ => .ok h⟩
      ProofRecord.sample (.of (.empty (.clear "store"))) = (.ok v, w') ∧
    v.isValid = false ∧ v.errorDetail.map (·.code) = some ErrorCode.oracleRejected.text ∧
    w'.oracleCalls = 1 := by
  have hshown : ∀ s ∈ sampleEvidence.shape?, s.Showable := by
    rintro s ⟨⟩
    refine showable_of_lt (by decide) fun x hx => ?_
    cases List.mem_singleton.mp hx
    exact ⟨1, rfl, by decide⟩
  have hpasses : Passes sampleEvidence ProofRecord.sample := by
    refine ⟨?_, ?_⟩
    · rintro s ⟨⟩
      refine ⟨?_, ?_, ?_⟩
      · rintro n ⟨⟩
        rfl
      · intro x hx
        cases List.mem_singleton.mp hx
        decide
      · intro tag _ x hx y hy _ _
        rw [List.mem_singleton.mp hx, List.mem_singleton.mp hy]
    · rintro digest ⟨⟩
      rfl
  obtain ⟨-, hpassed, -⟩ := verify_decides still ⟨fun _ _ _ => .judged (.int 1), .none⟩
    ⟨sampleEvidence.shape?.map fun s _ => .ok s, sampleEvidence.hash?.map fun h _ _ => .ok h⟩
    ProofRecord.sample sampleEvidence (.of (.empty (.clear "store"))) ProofRecord.sample.createdAt
    ⟨rfl, rfl⟩ hshown rfl rfl
  obtain ⟨fault, hfault, hreported⟩ := ((hpassed hpasses).1 (.int 1) rfl).2 (by simp)
  obtain ⟨u, hutc⟩ := Option.isSome_iff_exists.mp
    (by decide : ProofRecord.sample.createdAt.utc?.isSome = true)
  obtain ⟨v, hrun, htells, -⟩ := hreported.result u hutc
  refine ⟨v, _, Prod.ext hrun rfl, ?_, ?_, hreported.asked⟩
  · rw [htells.isValid]
    rfl
  · rw [htells.fault, Option.map_some, hfault]

/-- A shape of two objects, and no hash. -/
def pairEvidence : Evidence := ⟨some ⟨some 2, [], []⟩, none⟩

/-- A record with too few objects gets no result when the clock shows a time that UTC does not
reach. -/
theorem verify_short_early : Fails pairEvidence ProofRecord.sample .cardinalityMismatch ∧
    (verify ⟨fun _ => .ok Reference.early, fun _ => .zero⟩ Reference.oracle
      ⟨pairEvidence.shape?.map fun s _ => .ok s, none⟩ ProofRecord.sample
      (.of (.empty (.clear "store")))).1 = .error (.fault (.time .outOfRange)) := by
  have hfails : Fails pairEvidence ProofRecord.sample .cardinalityMismatch := by
    refine .shape rfl (.total fun htotal => ?_)
    cases htotal 2 rfl
  have hreturns : Returns ⟨pairEvidence.shape?.map fun s _ => .ok s, none⟩ ProofRecord.sample
    pairEvidence := ⟨rfl, rfl⟩
  have hshown : ∀ s ∈ pairEvidence.shape?, s.Showable := by
    rintro s ⟨⟩
    exact showable_of_lt (by decide) fun x hx => absurd hx List.not_mem_nil
  have haware : Reference.early.isAware = true := rfl
  obtain ⟨⟨fault, -, hreported⟩, -⟩ := verify_of_fails
    (t := ⟨fun _ => .ok Reference.early, fun _ => .zero⟩) (o := Reference.oracle)
    (w := .of (.empty (.clear "store"))) hreturns hshown rfl haware hfails
  exact ⟨hfails, hreported.lost (by decide)⟩

end ProofLedger.Verification
