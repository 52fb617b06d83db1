import ProofLedger.Proofs.Comparison.Order

/-!
# Comparing a record with itself

A record whose duration is finite does not differ from itself: `compare_self` says so for every
threshold that is a number. Two values that the checks let through are left. An infinite duration
has no difference from itself, and so no percentage, and not-a-number as a threshold has nothing
within it; either way the verdict is a regression.
-/

namespace ProofLedger

/-- Nothing is different between two records but their names. -/
structure ComparisonReport.IsNeutral (r : ComparisonReport) : Prop where
  hashes : r.hashesEqual = true
  delta : r.delta = .zero
  percent : r.percent = some .zero
  verdict : r.verdict = .unchanged

/-! ## Without a number -/

theorem Quantity.level?_eq_none_iff (q : Quantity) : q.level? = none ↔ q = .double .nan := by
  cases q with
  | whole n => exact iff_of_false nofun nofun
  | double d =>
    cases d with
    | nan => exact iff_of_true rfl rfl
    | number s r =>
      have hsome := Quantity.isSome_level?_double (d := .number s r) rfl
      refine iff_of_false (fun hnone => ?_) nofun
      rw [hnone] at hsome
      cases hsome

/-- What cannot be compared with the threshold counts as a regression. -/
theorem classify_nowhere {p t : Quantity} (h : p = .double .nan ∨ t = .double .nan) :
    classify p t = .regressed := by
  unfold classify
  rcases h with rfl | rfl
  · rw [if_neg nofun, if_neg nofun]
  · have hlt : p.abs.lt (.double .nan) = false := by
      unfold Quantity.lt
      cases p.abs.level? <;> rfl
    have hle : p.le (Quantity.double .nan).neg = false := by
      unfold Quantity.le
      cases p.level? <;> rfl
    rw [hlt, hle, if_neg Bool.false_ne_true, if_neg Bool.false_ne_true]

theorem Threshold.positive_of_check {t : Threshold} {q : Quantity} (h : t.check = .ok q)
    (hnan : t.value ≠ .double .nan) : Quantity.zero.lt t.value = true := by
  have hpositive := ((t.check_eq_ok_iff).mp ⟨q, h⟩).1
  have hsome : t.value.level?.isSome := by
    rw [Option.isSome_iff_ne_none]
    exact fun hnone => hnan ((Quantity.level?_eq_none_iff _).mp hnone)
  rw [Quantity.lt_iff_not_le rfl hsome]
  exact fun hle => Bool.false_ne_true (hpositive.symm.trans hle)

section Infinite

variable {x : Duration}

theorem sub_self_of_infinite {d : Double} (h : d.isFinite = false) : d.sub d = .nan := by
  cases d with
  | nan => rfl
  | number s r =>
    have hinfinite : (Double.number s r).isInfinite = true := by
      simpa [Double.isFinite, Double.isInfinite] using h
    have hnan : (Double.number s r).isNan = false := rfl
    rw [Double.sub, hnan, Bool.or_self, if_neg Bool.false_ne_true, if_pos hinfinite, hinfinite,
      beq_self_eq_true]
    rfl

/-- An infinite duration has no change in percent from itself that is a number. -/
theorem relativeChange_self_of_infinite (hx : x.val.isFinite = false) :
    relativeChange x.val (x.val.sub x.val) = some .nan := by
  obtain ⟨p, hp, hnonneg⟩ := x.exists_place
  have hpos : Double.zero.lt x.val = true := by
    have hfinite := Double.isFinite_iff_place hp
    rw [hx, iff_false_left Bool.false_ne_true] at hfinite
    rw [Double.lt_iff Double.place?_zero hp]
    have hinfinity : 0 < infinityRank := by decide
    omega
  rw [sub_self_of_infinite hx, relativeChange, if_pos hpos]
  rfl

end Infinite

/-! ## A record and itself -/

section Itself

variable {r : ProofRecord} {t : Threshold} {report : ComparisonReport}

theorem hashesEqual_of_self (h : compare r r t = .ok report) : report.hashesEqual = true := by
  rw [eq_of_compare h]
  exact beq_self_eq_true _

theorem verdict_of_self (h : compare r r t = .ok report) :
    report.verdict = verdictOf true report.percent t.value := by
  rw [eq_of_compare h]
  simp only [ComparisonReport.of, beq_self_eq_true]

theorem changes_of_finite (h : compare r r t = .ok report)
    (hfinite : r.duration.val.isFinite = true) :
    report.delta = .zero ∧ report.percent = some .zero := by
  rw [eq_of_compare h]
  exact ⟨Double.sub_self hfinite, relativeChange_self hfinite⟩

theorem changes_of_infinite (h : compare r r t = .ok report)
    (hinfinite : r.duration.val.isFinite = false) :
    report.delta = .nan ∧ report.percent = some .nan := by
  rw [eq_of_compare h]
  exact ⟨sub_self_of_infinite hinfinite, relativeChange_self_of_infinite hinfinite⟩

/-- A finite duration is neutral to itself, or a regression where the threshold is no number. -/
theorem verdict_of_finite (h : compare r r t = .ok report)
    (hfinite : r.duration.val.isFinite = true) :
    report.verdict = if t.value = .double .nan then .regressed else .unchanged := by
  rw [verdict_of_self h, (changes_of_finite h hfinite).2]
  obtain ⟨q, hq, -⟩ := map_eq_ok h
  split
  · next hnan => exact classify_nowhere (.inr hnan)
  · next hnumber =>
    exact classify_zero (Threshold.positive_of_check hq hnumber) Double.place?_zero

theorem verdict_of_infinite (h : compare r r t = .ok report)
    (hinfinite : r.duration.val.isFinite = false) : report.verdict = .regressed := by
  rw [verdict_of_self h, (changes_of_infinite h hinfinite).2]
  exact classify_nowhere (t := t.value) (.inl rfl)

theorem isNeutral_iff_unchanged (h : compare r r t = .ok report) :
    report.IsNeutral ↔ report.verdict = .unchanged := by
  refine ⟨fun hn => hn.verdict, fun hunchanged => ?_⟩
  cases hfinite : r.duration.val.isFinite with
  | true =>
    obtain ⟨hdelta, hpercent⟩ := changes_of_finite h hfinite
    exact ⟨hashesEqual_of_self h, hdelta, hpercent, hunchanged⟩
  | false =>
    rw [verdict_of_infinite h hfinite] at hunchanged
    cases hunchanged

theorem unchanged_iff_of_self (h : compare r r t = .ok report) :
    report.verdict = .unchanged ↔ r.duration.val.isFinite = true ∧ t.value ≠ .double .nan := by
  cases hfinite : r.duration.val.isFinite with
  | true =>
    rw [verdict_of_finite h hfinite]
    split
    · next hnan => exact iff_of_false (by decide) fun hn => hn.2 hnan
    · next hnumber => exact iff_of_true rfl ⟨rfl, hnumber⟩
  | false =>
    rw [verdict_of_infinite h hfinite]
    exact iff_of_false (by decide) fun hn => Bool.false_ne_true hn.1

theorem regressed_or_unchanged_of_self (h : compare r r t = .ok report) :
    report.verdict = .regressed ∨ report.verdict = .unchanged := by
  cases hfinite : r.duration.val.isFinite with
  | true =>
    rw [verdict_of_finite h hfinite]
    split
    · exact .inl rfl
    · exact .inr rfl
  | false => exact .inl (verdict_of_infinite h hfinite)

end Itself

/-- A comparison of a record with itself is neutral exactly when the duration is finite and the
threshold is a number. -/
theorem compare_self {r : ProofRecord} {t : Threshold} {report : ComparisonReport}
    (h : compare r r t = .ok report) :
    (report.IsNeutral ↔ r.duration.val.isFinite = true ∧ t.value ≠ .double .nan) ∧
      report.hashesEqual = true ∧
      (r.duration.val.isFinite = true → report.delta = .zero ∧ report.percent = some .zero) ∧
      (r.duration.val.isFinite = false → report.delta = .nan ∧ report.percent = some .nan) ∧
      (¬ report.IsNeutral → report.verdict = .regressed) := by
  have hneutral := isNeutral_iff_unchanged h
  refine ⟨hneutral.trans (unchanged_iff_of_self h), hashesEqual_of_self h, changes_of_finite h,
    changes_of_infinite h, fun hn => ?_⟩
  exact (regressed_or_unchanged_of_self h).resolve_right (mt hneutral.mpr hn)

/-- One second is no change from one second. -/
theorem compare_self_second :
    let r := ProofRecord.sample.lasting (.ofNat 1)
    ∃ report, compare r r .default = .ok report ∧ report.IsNeutral := by
  intro r
  obtain ⟨report, hreport⟩ := (exists_compare_iff r r .default).mpr
    ((Threshold.check_eq_ok_iff _).mpr ⟨by decide +kernel, nofun⟩)
  exact ⟨report, hreport, (compare_self hreport).1.mpr ⟨by decide +kernel, nofun⟩⟩

/-- A record with an infinite duration has regressed from itself, and under a threshold that is not
a number so has a record that took one second. -/
theorem regressed_from_itself :
    (let r := ProofRecord.sample.lasting (.ofRank infinityRank)
      ∃ report, compare r r .default = .ok report ∧ report.delta.eq .zero = false ∧
        report.percent = some .nan ∧ report.verdict = .regressed) ∧
    (let r := ProofRecord.sample.lasting (.ofNat 1)
      ∃ report, compare r r (.ofDouble .nan) = .ok report ∧ report.delta = .zero ∧
        report.percent = some .zero ∧ report.verdict = .regressed) := by
  constructor
  · intro r
    obtain ⟨report, hreport⟩ := (exists_compare_iff r r .default).mpr
      ((Threshold.check_eq_ok_iff _).mpr ⟨by decide +kernel, nofun⟩)
    refine ⟨report, hreport, ?_⟩
    rw [eq_of_compare hreport]
    decide +kernel
  · intro r
    obtain ⟨report, hreport⟩ := (exists_compare_iff r r (.ofDouble .nan)).mpr
      ((Threshold.check_eq_ok_iff _).mpr ⟨by decide +kernel, nofun⟩)
    refine ⟨report, hreport, ?_⟩
    rw [eq_of_compare hreport]
    decide +kernel

end ProofLedger
