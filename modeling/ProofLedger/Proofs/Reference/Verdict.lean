import ProofLedger.Proofs.Calendar.Reading
import ProofLedger.Proofs.Reference.Layout
import ProofLedger.Proofs.Store.Refinement
import ProofLedger.Proofs.Verification.Steps

/-!
# What the reference oracle accepts

`verify_genuine`: a record is found valid exactly when it is genuine, that is, when its objects
and its hash are the ones the reference prover has for its input. Whatever else a record holds,
some check stops it; the last one, the oracle, compares the objects themselves, so nothing is
assumed of the digest.

`verify_eq_finish` leads there: verification comes to its last step, the result, without failing,
and the fault it reports there is absent for genuine records only. The result itself needs a time
that can be written in UTC (`verify_of_utc`, `verify_of_format`).
-/

namespace ProofLedger

namespace Reference

open Verification

/-- Objects and hash are the ones that the reference prover has for the input. -/
structure Genuine (r : ProofRecord) : Prop where
  objects : objects r.input = .ok r.objects
  hash : hash r.input r.objects = .ok r.proofHash.val

/-- The early checks come to an end. They find nothing wrong with a genuine record, and with no
record whose hash is wrong. -/
theorem exists_findMismatch {r : ProofRecord} (h : r.input.length < 2 ^ 64) :
    ∃ found, findMismatch checks r = .ok found ∧ (Genuine r → found = none) ∧
      (found = none → hash r.input r.objects = .ok r.proofHash.val) := by
  obtain ⟨digest, hdigest⟩ := exists_hash h r.objects
  let e : Evidence := ⟨some (shape r.input.length), some digest⟩
  have hreturns : Returns checks r e := ⟨rfl, congrArg some hdigest⟩
  have hshown : ∀ s ∈ e.shape?, s.Showable := by
    rintro s ⟨⟩
    exact showable_shape h
  have hgenuine (hr : Genuine r) : Passes e r := by
    refine ⟨?_, ?_⟩
    · -- the shape fits the objects of a genuine record
      rintro s ⟨⟩
      have hobjects := hr.objects
      rw [objects_of_lt h] at hobjects
      rw [← Except.ok.inj hobjects]
      exact fits_layout _ _
    · rintro digest' ⟨⟩
      exact Except.ok.inj (hdigest.symm.trans hr.hash)
  rcases passes_or_fails e r with hpasses | ⟨code, hfails⟩
  · refine ⟨none, findMismatch_of_passes hreturns hpasses, fun _ => rfl, fun _ => ?_⟩
    rw [hdigest, hpasses.hash digest rfl]
  · obtain ⟨found, hfound, -⟩ := findMismatch_of_fails hreturns hshown hfails
    exact ⟨some found, hfound, fun hr => absurd (hgenuine hr) hfails.not_passes,
      fun hnone => absurd hnone (Option.some_ne_none found)⟩

/-- The oracle has a judgment, and it is true for the objects of the input only. -/
theorem judge_eq {i : ProveInput} (h : i.length < 2 ^ 64) (os : List ProofObject) :
    ∃ b, judge i os = .judged (.bool b) ∧ (b = true ↔ objects i = .ok os) := by
  have hobjects := objects_of_lt h
  refine ⟨_, by rw [judge, accepts, hobjects]; rfl, ?_⟩
  rw [hobjects, decide_eq_true_iff, Except.ok.injEq, eq_comm]

/-- A judgment leads to a result, and to one without a fault when it is true. -/
theorem conclude_judged {t : Instruments} {r : ProofRecord} (started : Double) (b : Bool)
    (w : World) : ∃ fault w',
      conclude t r started (.judged (.bool b)) w = finish t r started .oracle fault w' ∧
        Act.Later 0 w w' ∧ (fault = none ↔ b = true) := by
  cases b with
  | true =>
    obtain ⟨w', hend, hlater, -⟩ := conclude_true (t := t) (r := r) started w
    exact ⟨none, w', hend, hlater, by simp⟩
  | false =>
    obtain ⟨w', hend, hlater, -⟩ :=
      conclude_other (t := t) (r := r) started (by simp : Data.bool false ≠ .bool true) w
    exact ⟨some rejection, w', hend, hlater, by simp⟩

/-- Verification comes to its result, and finds no fault with genuine records only. -/
theorem verify_eq_finish (t : Instruments) {r : ProofRecord} (h : r.input.length < 2 ^ 64)
    (w : World) : ∃ started method fault w',
      verify t oracle checks r w = finish t r started method fault w' ∧
        Act.Later 0 w w' ∧ (fault = none ↔ Genuine r) := by
  obtain ⟨found, hfound, hgenuine, hhash⟩ := exists_findMismatch h
  cases found with
  | some m =>
    obtain ⟨started, w', hrun, hlater, -⟩ := verify_of_mismatch (t := t) hfound w
    refine ⟨started, .precheck, some (detail m), w', hrun oracle, hlater, ?_⟩
    exact ⟨fun hnone => (nomatch hnone), fun hr => (nomatch hgenuine hr)⟩
  | none =>
    obtain ⟨started, w', hrun, hlater, -⟩ := verify_of_clear (t := t) hfound w
    obtain ⟨b, hb, htrue⟩ := judge_eq h r.objects
    have hanswer : oracle.judge w.oracleCalls r.input r.objects = .judged (.bool b) := hb
    obtain ⟨fault, w'', hend, hlater', hfault⟩ := conclude_judged (t := t) (r := r) started b w'
    refine ⟨started, .oracle, fault, w'', ?_, hlater.trans hlater', ?_⟩
    · rw [hrun oracle, hanswer, hend]
    · rw [hfault, htrue]
      exact ⟨fun hos => ⟨hos, hhash rfl⟩, fun hr => hr.objects⟩

/-- Where the clock shows a time that UTC reaches, genuine records are found valid and no others;
the clock is read once for it. -/
theorem verify_of_utc (t : Instruments) {r : ProofRecord} {w : World} {m u : Moment}
    (hlength : r.input.length < 2 ^ 64) (hclock : t.clock w.clockReads = .ok m)
    (haware : m.isAware = true) (hutc : m.utc? = some u) :
    ∃ v w', verify t oracle checks r w = (.ok v, w') ∧ Act.Later 1 w w' ∧
      (v.isValid = true ↔ Genuine r) := by
  obtain ⟨started, method, fault, w', hrun, hlater, hfault⟩ := verify_eq_finish t hlength w
  have hreads : w'.clockReads = w.clockReads := hlater.clockReads
  rw [← hreads] at hclock
  obtain ⟨w'', hlater', -, hend⟩ := finish_run (r := r) started method fault hclock
  rw [Moment.format_eq haware hutc] at hend
  obtain ⟨v, hfinish, htells, -⟩ := hend
  refine ⟨v, w'', hrun.trans hfinish, hlater.trans hlater', ?_⟩
  rw [htells.isValid, Option.isNone_iff_eq_none, hfault]

/-- A time that cannot be written keeps the result away. -/
theorem verify_of_format (t : Instruments) {r : ProofRecord} {w : World} {m : Moment}
    {e : TimeFault} (hlength : r.input.length < 2 ^ 64) (hclock : t.clock w.clockReads = .ok m)
    (hformat : m.format = .error e) :
    (verify t oracle checks r w).1 = .error (.fault (.time e)) := by
  obtain ⟨started, method, fault, w', hrun, hlater, -⟩ := verify_eq_finish t hlength w
  have hreads : w'.clockReads = w.clockReads := hlater.clockReads
  rw [← hreads] at hclock
  obtain ⟨w'', -, -, hend⟩ := finish_run (r := r) started method fault hclock
  rw [hformat] at hend
  rw [hrun, hend]

/-- A record is verified, whatever it holds, and it is valid when it is genuine; so no other
objects pass in the place of those of its input, whatever its hash. Only a clock whose time UTC
does not reach keeps the result away. -/
theorem verify_genuine (t : Instruments) (r : ProofRecord) (w : World) (m : Moment)
    (hlength : r.input.length < 2 ^ 64) (hclock : t.clock w.clockReads = .ok m)
    (haware : m.isAware = true) :
    (m.utc?.isSome = true → ∃ v w', verify t oracle checks r w = (.ok v, w') ∧
      (v.isValid = true ↔
        objects r.input = .ok r.objects ∧ hash r.input r.objects = .ok r.proofHash.val) ∧
      ∀ os, objects r.input = .ok os → r.objects ≠ os → v.isValid = false) ∧
    (m.utc? = none → (verify t oracle checks r w).1 = .error (.fault (.time .outOfRange))) := by
  refine ⟨fun hutc => ?_, fun hutc => ?_⟩
  · obtain ⟨u, hu⟩ := Option.isSome_iff_exists.mp hutc
    obtain ⟨v, w', hrun, -, hiff⟩ := verify_of_utc t hlength hclock haware hu
    refine ⟨v, w', hrun, ?_, fun os hos hne => ?_⟩
    · exact hiff.trans ⟨fun hr => ⟨hr.objects, hr.hash⟩, fun hr => ⟨hr.1, hr.2⟩⟩
    · refine Bool.eq_false_iff.mpr fun htrue => hne ?_
      exact Except.ok.inj ((hiff.mp htrue).objects.symm.trans hos)
  · have hformat : m.format = .error .outOfRange := by
      simp only [Moment.format, haware, if_true, hutc]
    exact verify_of_format t hlength hclock hformat

/-- A record whose objects are not those of its input. -/
def forged : ProofRecord :=
  { ProofRecord.sample with input := { ProofRecord.sample.input with length := 1 } }

theorem objects_forged_ne : ∀ os, objects forged.input = .ok os → forged.objects ≠ os := by
  intro os hos heq
  rw [objects_of_lt (by decide)] at hos
  have hlength := congrArg List.length (heq.trans (Except.ok.inj hos).symm)
  simp [layout, forged, ProofRecord.sample, rootCount] at hlength

/-- A forged record is found invalid. -/
theorem verify_genuine_forged : ∃ v w',
    verify still oracle checks forged (.of (.empty (.clear "store"))) = (.ok v, w') ∧
      v.isValid = false := by
  have hlength : forged.input.length < 2 ^ 64 := by decide
  have hobjects := objects_of_lt hlength
  obtain ⟨v, w', hrun, -, hreject⟩ := (verify_genuine still forged
    (.of (.empty (.clear "store"))) ProofRecord.sample.createdAt hlength rfl rfl).1 (by decide)
  exact ⟨v, w', hrun, hreject _ hobjects (objects_forged_ne _ hobjects)⟩

/-- Midnight of the first day, one hour east of UTC: UTC is not there yet. -/
def early : Moment := ⟨0, some (3600 * Calendar.second), by decide, by decide⟩

/-- A clock that shows such a time keeps the result away. -/
theorem verify_early : early.isAware = true ∧ forged.input.length < 2 ^ 64 ∧
    (verify ⟨fun _ => .ok early, fun _ => .zero⟩ oracle checks forged
      (.of (.empty (.clear "store")))).1 = .error (.fault (.time .outOfRange)) := by
  have hlength : forged.input.length < 2 ^ 64 := by decide
  have hformat : early.format = .error .outOfRange := by decide
  exact ⟨rfl, hlength, verify_of_format _ hlength rfl hformat⟩

end Reference

end ProofLedger
