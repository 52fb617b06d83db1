import ProofLedger.Proofs.Run.Quiet
import ProofLedger.Proofs.Verification.Fit

/-!
# The steps of a verification

First come the early checks. A record passes them, or there is a first one that it fails (`Passes`,
`Fails`), and that is what is found out (`findMismatch_of_passes`, `findMismatch_of_fails`),
provided that the checks come to an end at all (`Returns`).

`verify_of_mismatch` and `verify_of_clear` follow a verification from there to its last step, the
result. `finish_run` is that step: the clock is read for it, and there is a result when the time has
a text.
-/

namespace ProofLedger.Verification

/-! ## The early checks -/

/-- What the early checks go by: the shape that a record should have, and the hash of its objects,
each when there is a check on it. -/
structure Evidence where
  shape? : Option ProofShape
  hash? : Option Text

/-- The checks come to an end on a record, with this evidence. -/
structure Returns (checks : Prechecks) (r : ProofRecord) (e : Evidence) : Prop where
  shape : checks.shape?.map (· r.input.length) = e.shape?.map .ok
  hash : checks.hash?.map (· r.input r.objects) = e.hash?.map .ok

/-- The record passes every check that there is. -/
structure Passes (e : Evidence) (r : ProofRecord) : Prop where
  shape : ∀ s ∈ e.shape?, s.Fits r.objects
  hash : ∀ digest ∈ e.hash?, digest = r.proofHash.val

/-- The code of the first check that a record fails; the shape comes before the hash. -/
inductive Fails (e : Evidence) (r : ProofRecord) : ErrorCode → Prop
  | shape {s : ProofShape} {code : ErrorCode} (expected : s ∈ e.shape?)
      (wrong : Misfits s r.objects code) : Fails e r code
  | hash {digest : Text} (fits : ∀ s ∈ e.shape?, s.Fits r.objects) (found : digest ∈ e.hash?)
      (wrong : digest ≠ r.proofHash.val) : Fails e r .proofHashMismatch

section Checks

variable {checks : Prechecks} {r : ProofRecord} {e : Evidence}

/-- A record passes every check or there is a first that it fails. -/
theorem passes_or_fails (e : Evidence) (r : ProofRecord) :
    Passes e r ∨ ∃ code, Fails e r code := by
  by_cases hshape : ∀ s ∈ e.shape?, s.Fits r.objects
  · by_cases hhash : ∀ digest ∈ e.hash?, digest = r.proofHash.val
    · exact .inl ⟨hshape, hhash⟩
    · push Not at hhash
      obtain ⟨digest, hdigest, hwrong⟩ := hhash
      exact .inr ⟨_, .hash hshape hdigest hwrong⟩
  · push Not at hshape
    obtain ⟨s, hs, hfits⟩ := hshape
    obtain ⟨code, hwrong⟩ := (exists_misfits_iff s r.objects).mpr hfits
    exact .inr ⟨code, .shape hs hwrong⟩

theorem Fails.not_passes {code : ErrorCode} (h : Fails e r code) : ¬ Passes e r := by
  intro hpasses
  cases h with
  | shape expected wrong =>
    exact (exists_misfits_iff _ _).mp ⟨_, wrong⟩ (hpasses.shape _ expected)
  | hash fits found wrong => exact wrong (hpasses.hash _ found)

theorem exists_fails_iff (e : Evidence) (r : ProofRecord) :
    (∃ code, Fails e r code) ↔ ¬ Passes e r :=
  ⟨fun ⟨_, h⟩ => h.not_passes, (passes_or_fails e r).resolve_left⟩

theorem checkShape_of_none (h : Returns checks r e) (hnone : e.shape? = none) :
    checkShape checks r = .ok () := by
  have hcheck := h.shape
  rw [hnone, Option.map_none, Option.map_eq_none_iff] at hcheck
  rw [checkShape, hcheck]

theorem checkShape_of_some (h : Returns checks r e) {s : ProofShape} (hs : s ∈ e.shape?) :
    checkShape checks r = fit s r.objects := by
  have hcheck := h.shape
  rw [Option.mem_def.mp hs, Option.map_some, Option.map_eq_some_iff] at hcheck
  obtain ⟨provide, hprovide, hreturn⟩ := hcheck
  rw [checkShape, hprovide]
  simp only [hreturn, bind, Except.bind]

/-- The shape check passes when the shape fits. -/
theorem checkShape_of_fits (h : Returns checks r e) (hfits : ∀ s ∈ e.shape?, s.Fits r.objects) :
    checkShape checks r = .ok () := by
  cases hs : e.shape? with
  | none => exact checkShape_of_none h hs
  | some s => rw [checkShape_of_some h hs, (fit_eq_ok_iff s _).mpr (hfits s hs)]

theorem checkHash_of_none (h : Returns checks r e) (hnone : e.hash? = none) :
    checkHash checks r = .ok () := by
  have hcheck := h.hash
  rw [hnone, Option.map_none, Option.map_eq_none_iff] at hcheck
  rw [checkHash, hcheck]

theorem checkHash_of_some (h : Returns checks r e) {digest : Text} (hdigest : digest ∈ e.hash?) :
    checkHash checks r = if digest = r.proofHash.val then .ok ()
      else .error (.ledger (.mismatch (.hash digest r.proofHash.val))) := by
  have hcheck := h.hash
  rw [Option.mem_def.mp hdigest, Option.map_some, Option.map_eq_some_iff] at hcheck
  obtain ⟨hasher, hhasher, hreturn⟩ := hcheck
  rw [checkHash, hhasher]
  simp only [hreturn, bind, Except.bind]

/-- Nothing is found wrong with a record that passes. -/
theorem findMismatch_of_passes (h : Returns checks r e) (hpasses : Passes e r) :
    findMismatch checks r = .ok none := by
  have hhash : checkHash checks r = .ok () := by
    cases hdigest : e.hash? with
    | none => exact checkHash_of_none h hdigest
    | some digest => rw [checkHash_of_some h hdigest, if_pos (hpasses.hash digest hdigest)]
  rw [findMismatch, precheck, checkShape_of_fits h hpasses.shape]
  simp only [bind, Except.bind, hhash]

/-- The first check that a record fails is told. -/
theorem findMismatch_of_fails (h : Returns checks r e) (hshown : ∀ s ∈ e.shape?, s.Showable)
    {code : ErrorCode} (hfails : Fails e r code) :
    ∃ found, findMismatch checks r = .ok (some found) ∧ found.code = code := by
  cases hfails with
  | @shape s code hs hwrong =>
    rcases fit_of_showable (hshown s hs) r.objects with ⟨-, hfits⟩ | ⟨found, hfit, hfirst⟩
    · exact absurd hfits ((exists_misfits_iff s r.objects).mp ⟨code, hwrong⟩)
    · refine ⟨.shape found, ?_, (misfits_of_firstMismatch hfirst).unique hwrong⟩
      rw [findMismatch, precheck, checkShape_of_some h hs, hfit]
      rfl
  | @hash digest hfits hdigest hwrong =>
    refine ⟨.hash digest r.proofHash.val, ?_, rfl⟩
    rw [findMismatch, precheck, checkShape_of_fits h hfits]
    simp only [bind, Except.bind, checkHash_of_some h hdigest, if_neg hwrong]

end Checks

/-! ## The last step -/

/-- A result on a record: what was found, by which method, in a time that is not negative. -/
structure Tells (r : ProofRecord) (method : Method) (fault : Option ErrorDetail)
    (v : VerificationResult) : Prop where
  about : About r v
  isValid : v.isValid = fault.isNone
  method : v.method = method.text
  fault : v.errorDetail = fault
  duration : Double.zero.le v.duration = true

section Steps

variable {t : Instruments} {checks : Prechecks} {r : ProofRecord}

/-- The clock is read once more, and there is a result when its time has a text. -/
theorem finish_run {w : World} {m : Moment} (started : Double) (method : Method)
    (fault : Option ErrorDetail) (hclock : t.clock w.clockReads = .ok m) :
    ∃ w', Act.Later 1 w w' ∧ w'.oracleCalls = w.oracleCalls ∧
      match m.format with
      | .ok stamp => ∃ v, finish t r started method fault w = (.ok v, w') ∧
          Tells r method fault v ∧ v.timestamp = stamp
      | .error f => finish t r started method fault w = (.error (.fault (.time f)), w') := by
  have hread : Act.readClock t { w with timerReads := w.timerReads + 1 } =
      (.ok m, { w with timerReads := w.timerReads + 1, clockReads := w.clockReads + 1 }) :=
    Act.readClock_eq hclock
  have hstamp (w : World) : Act.stamp m w = (m.format.mapError fun f => .fault (.time f), w) := rfl
  rw [finish, Act.bind_eq_of_ok (Act.elapsed_eq t started w), Act.bind_eq_of_ok hread]
  refine ⟨{ w with timerReads := w.timerReads + 1, clockReads := w.clockReads + 1 },
    ⟨rfl, rfl, rfl⟩, rfl, ?_⟩
  cases hformat : m.format with
  | ok stamp =>
    rw [Act.bind_eq_of_ok (by rw [hstamp, hformat, mapError_ok])]
    exact ⟨_, rfl, ⟨⟨rfl, rfl, rfl⟩, rfl, rfl, rfl, Double.zero_le_max _⟩, rfl⟩
  | error f => exact Act.bind_eq_of_error (by rw [hstamp, hformat]; rfl)

/-- A verdict that is exactly true leads to a result without a fault. -/
theorem conclude_true (started : Double) (w : World) :
    ∃ w', conclude t r started (.judged (.bool true)) w = finish t r started .oracle none w' ∧
      Act.Later 0 w w' ∧ w'.oracleCalls = w.oracleCalls :=
  ⟨_, Act.bind_eq_of_ok rfl, ⟨rfl, rfl, rfl⟩, rfl⟩

/-- Any other verdict leads to a rejection. -/
theorem conclude_other (started : Double) {verdict : Data} (h : verdict ≠ .bool true)
    (w : World) : ∃ w',
      conclude t r started (.judged verdict) w = finish t r started .oracle (some rejection) w' ∧
      Act.Later 0 w w' ∧ w'.oracleCalls = w.oracleCalls := by
  have hrun : conclude t r started (.judged verdict) = (do
      Act.report .warning .verification ("oracle rejected record " ++ r.id.val)
      finish t r started .oracle (some rejection)) := by
    cases verdict with
    | bool b =>
      cases b with
      | true => exact absurd rfl h
      | false => rfl
    | _ => rfl
  rw [hrun]
  exact ⟨_, Act.bind_eq_of_ok rfl, ⟨rfl, rfl, rfl⟩, rfl⟩

theorem noteSkipped_eq (checks : Prechecks) (w : World) :
    ∃ log, noteSkipped checks w = (.ok (), { w with log }) := by
  unfold noteSkipped
  split
  · exact ⟨_, rfl⟩
  · exact ⟨w.log, rfl⟩

/-! ## Both parts -/

/-- A mismatch leads to the result at once, whatever the oracle. -/
theorem verify_of_mismatch {found : Mismatch} (h : findMismatch checks r = .ok (some found))
    (w : World) : ∃ started w',
      (∀ o, verify t o checks r w = finish t r started .precheck (some (detail found)) w') ∧
      Act.Later 0 w w' ∧ w'.oracleCalls = w.oracleCalls := by
  obtain ⟨log, hnote⟩ := noteSkipped_eq checks { w with timerReads := w.timerReads + 1 }
  obtain ⟨log', hreport⟩ : ∃ log', Act.report .warning .verification
      ("record " ++ r.id.val ++ " failed structural pre-check: " ++ found.message)
      { w with timerReads := w.timerReads + 1, log } =
        (.ok (), { w with timerReads := w.timerReads + 1, log := log' }) := ⟨_, rfl⟩
  refine ⟨t.timer w.timerReads, { w with timerReads := w.timerReads + 1, log := log' },
    fun o => ?_, ⟨rfl, rfl, rfl⟩, rfl⟩
  rw [verify, Act.bind_eq_of_ok (Act.readTimer_eq t w), Act.bind_eq_of_ok hnote,
    Act.bind_eq_of_ok (Act.lift_eq h)]
  exact Act.bind_eq_of_ok hreport

/-- Without one the oracle is asked once, about the input and the objects of the record. -/
theorem verify_of_clear (h : findMismatch checks r = .ok none) (w : World) : ∃ started w',
    (∀ o, verify t o checks r w =
      conclude t r started (o.judge w.oracleCalls r.input r.objects) w') ∧
    Act.Later 0 w w' ∧ w'.oracleCalls = w.oracleCalls + 1 := by
  obtain ⟨log, hnote⟩ := noteSkipped_eq checks { w with timerReads := w.timerReads + 1 }
  refine ⟨t.timer w.timerReads,
    { w with timerReads := w.timerReads + 1, log, oracleCalls := w.oracleCalls + 1 },
    fun o => ?_, ⟨rfl, rfl, rfl⟩, rfl⟩
  rw [verify, Act.bind_eq_of_ok (Act.readTimer_eq t w), Act.bind_eq_of_ok hnote,
    Act.bind_eq_of_ok (Act.lift_eq h)]
  exact Act.bind_eq_of_ok rfl

end Steps

end ProofLedger.Verification
