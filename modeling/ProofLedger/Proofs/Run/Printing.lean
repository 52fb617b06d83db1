import ProofLedger.Proofs.Record.RoundTrip
import ProofLedger.Run.Basic

/-!
# Which reports can be printed

A report for machines is printed as a document, and there is none where a number has no numeral:
where a double is infinite or not-a-number, or an integer has too many digits. `Run.printable_iff`
says of the report on a run which numbers these are. Everything else in it has a document.
-/

namespace ProofLedger

/-! ## Values -/

namespace Data

/-- There is a document of the value. -/
def Printable (d : Data) : Prop := ∃ j, d.toJson = .ok j

@[simp] theorem printable_null : Printable .null := ⟨.null, rfl⟩

@[simp] theorem printable_bool (b : Bool) : Printable (.bool b) := ⟨.bool b, rfl⟩

@[simp] theorem printable_text (t : Text) : Printable (.text t) := ⟨.text t, rfl⟩

@[simp] theorem printable_int_iff {n : Int} : Printable (.int n) ↔ Number.fits n = true := by
  rw [Printable, toJson]
  cases Number.fits n <;> simp

@[simp] theorem printable_double_iff {d : Double} : Printable (.double d) ↔ d.isFinite = true := by
  rw [Printable, toJson]
  cases d.isFinite <;> simp

theorem printable_list {xs : List Data} (h : ∀ x ∈ xs, Printable x) : Printable (.list xs) :=
  exists_toJson_list h

/-- A dictionary can be printed when all its values can. -/
theorem printable_dict_iff {es : List (Text × Data)} :
    Printable (.dict (textEntries es)) ↔ ∀ e ∈ es, Printable e.2 := by
  refine ⟨fun ⟨j, hj⟩ e he => ?_, exists_toJson_dict⟩
  obtain ⟨out, -, hperm⟩ := toJson_dict_perm hj
  obtain ⟨o, -, ho⟩ := List.mem_map.mp (hperm.mem_iff.mpr (List.mem_map_of_mem he))
  exact ⟨o.2, (Prod.mk.inj ho).2.symm⟩

/-- What stands for something that may be missing can be printed when it can where it is there. -/
theorem printable_getD_iff {α : Type} {toData : α → Data} {a : Option α} :
    ((a.map toData).getD .null).Printable ↔ ∀ x ∈ a, (toData x).Printable := by
  cases a <;> simp

end Data

open Data

/-! ## The parts of a report -/

namespace ProofRecord

theorem toData_eq (r : ProofRecord) : r.toData = .dict (textEntries
    [("record_id", .text r.id.val), ("input", r.input.toData),
      ("proof_objects", .list (r.objects.map ProofObject.toData)),
      ("proof_hash", .text r.proofHash.val), ("duration_secs", .double r.duration.val),
      ("timestamp", .text r.timestamp.text), ("source_label", .text r.sourceLabel),
      ("test_name", .text r.testName)]) := rfl

theorem printable_input {i : ProveInput} (h : Number.fits i.length = true) :
    i.toData.Printable := exists_toJson_input h

theorem printable_objects (objects : List ProofObject) :
    (Data.list (objects.map ProofObject.toData)).Printable := by
  refine printable_list fun x hx => ?_
  obtain ⟨o, -, rfl⟩ := List.mem_map.mp hx
  exact exists_toJson_object o

/-- A record that has a text can be printed. -/
theorem printable_of_dumps {r : ProofRecord} (h : ∃ t, r.dumps = .ok t) : r.toData.Printable := by
  obtain ⟨hfinite, hfits⟩ := r.exists_dumps_iff.mp h
  rw [toData_eq, printable_dict_iff]
  simp [hfinite, printable_input hfits, printable_objects]

end ProofRecord

namespace VerificationResult

theorem toData_eq (v : VerificationResult) : v.toData = .dict (textEntries
    [("record_id", .text v.recordId), ("is_valid", .bool v.isValid),
      ("duration_secs", .double v.duration),
      ("error_detail", (v.errorDetail.map ErrorDetail.toData).getD .null),
      ("proof_objects_count", .int v.objectCount), ("original_proof_hash", .text v.proofHash),
      ("verification_method", .text v.method), ("timestamp", .text v.timestamp)]) := rfl

theorem printable_detail (e : ErrorDetail) : e.toData.Printable := by
  have heq : e.toData =
      .dict (textEntries [("code", .text e.code), ("message", .text e.message)]) := rfl
  rw [heq, printable_dict_iff]
  simp

theorem printable_iff (v : VerificationResult) :
    v.toData.Printable ↔ v.duration.isFinite = true ∧ Number.fits v.objectCount = true := by
  rw [toData_eq, printable_dict_iff]
  simp [printable_getD_iff, printable_detail]

end VerificationResult

namespace ComparisonReport

/-- Every number of the report is finite. -/
structure IsFinite (c : ComparisonReport) : Prop where
  baselineDuration : c.baselineDuration.isFinite = true
  candidateDuration : c.candidateDuration.isFinite = true
  delta : c.delta.isFinite = true
  percent : ∀ p ∈ c.percent, p.isFinite = true
  threshold : c.threshold.isFinite = true

theorem toData_eq (c : ComparisonReport) : c.toData = .dict (textEntries
    [("baseline_record_id", .text c.baselineId), ("candidate_record_id", .text c.candidateId),
      ("hashes_equal", .bool c.hashesEqual), ("baseline_proof_hash", .text c.baselineHash),
      ("candidate_proof_hash", .text c.candidateHash),
      ("baseline_duration_secs", .double c.baselineDuration),
      ("candidate_duration_secs", .double c.candidateDuration),
      ("duration_delta_secs", .double c.delta),
      ("duration_delta_percent", (c.percent.map Data.double).getD .null),
      ("threshold_percent", .double c.threshold), ("verdict", .text c.verdict.text)]) := rfl

theorem printable_iff (c : ComparisonReport) : c.toData.Printable ↔ c.IsFinite := by
  rw [toData_eq, printable_dict_iff]
  simp only [List.forall_mem_cons, printable_text, printable_bool, printable_double_iff,
    printable_getD_iff, List.not_mem_nil, true_and, and_true, false_implies, implies_true]
  constructor
  · rintro ⟨hb, hc, hd, hp, ht⟩
    exact ⟨hb, hc, hd, hp, ht⟩
  · rintro ⟨hb, hc, hd, hp, ht⟩
    exact ⟨hb, hc, hd, hp, ht⟩

end ComparisonReport

/-! ## Runs -/

namespace Run

/-- Every number that a run reports of its verification and its comparison has a numeral. -/
structure IsFinite (r : Run) : Prop where
  verification : ∀ v ∈ r.verification, v.duration.isFinite = true ∧
    Number.fits v.objectCount = true
  comparison : ∀ c ∈ r.comparison, c.IsFinite

theorem toData_eq (r : Run) : r.toData = .dict (textEntries
    [("slot", .text r.slot.text), ("state", .text r.state.text),
      ("states", .list (r.states.map fun s => .text s.text)),
      ("record", (r.record.map ProofRecord.toData).getD .null),
      ("verification", (r.verification.map VerificationResult.toData).getD .null),
      ("comparison", (r.comparison.map ComparisonReport.toData).getD .null),
      ("comparison_skipped", .bool r.comparisonSkipped),
      ("baseline_promoted", .bool r.baselinePromoted),
      ("error", (r.failure.map Failure.toData).getD .null)]) := rfl

/-- The report on a run that has not failed can be printed when its numbers have numerals, if its
record can be. -/
theorem printable_iff {r : Run} (hrecord : ∀ x ∈ r.record, x.toData.Printable)
    (hfailure : r.failure = none) : r.toData.Printable ↔ r.IsFinite := by
  have hstates : (Data.list (r.states.map fun s => .text s.text)).Printable := by
    refine printable_list fun x hx => ?_
    obtain ⟨s, -, rfl⟩ := List.mem_map.mp hx
    exact printable_text _
  rw [toData_eq, printable_dict_iff, hfailure]
  simp only [List.forall_mem_cons, printable_text, printable_bool, printable_getD_iff, hstates,
    VerificationResult.printable_iff, ComparisonReport.printable_iff, List.not_mem_nil, true_and,
    and_true, false_implies, implies_true, Option.not_mem_none]
  constructor
  · rintro ⟨-, hv, hc⟩
    exact ⟨hv, hc⟩
  · rintro ⟨hv, hc⟩
    exact ⟨hrecord, hv, hc⟩

end Run

end ProofLedger
