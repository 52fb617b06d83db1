import ProofLedger.Proofs.Comparison.Order
import ProofLedger.Proofs.Run.Printing

/-!
# Which comparisons can be reported

A report on finite durations under a finite threshold has one number that may be infinite: the
change in percent, when the quotient is past `greatestQuotient`. For records that can be stored
`printable_iff_reportable` says that the report can be printed exactly when that does not happen. It
takes a candidate that lasts 10^306 times as long as the baseline.
-/

namespace ProofLedger

/-! ## Hundredfolds -/

namespace Double

variable {d : Double} {p : Int}

/-- The rank of the hundredfold of the double of a rank. -/
def hundredfoldRank (rank : Nat) : Nat :=
  rankOfRatio (units rank * (ofNat 100).signedUnits.natAbs) unitsPerOne

theorem hundredfoldRank_mono {r s : Nat} (hs : s ≤ infinityRank) (h : r ≤ s) :
    hundredfoldRank r ≤ hundredfoldRank s :=
  rankOfRatio_mono_left (Nat.mul_le_mul_right _ (units_le_units hs h))

theorem place?_hundredfold (hd : d.place? = some p) :
    ∃ q, (d.mul (ofNat 100)).place? = some q ∧ q.natAbs = hundredfoldRank p.natAbs ∧
      (0 ≤ p → 0 ≤ q) := by
  refine ⟨_, place?_mul (isNan_of_place hd) isFinite_hundred one_le_hundred, ?_, fun hp => ?_⟩
  · rw [natAbs_placeOfRatio, Int.natAbs_mul, signedUnits_of_place hd, natAbs_unitsAt,
      hundredfoldRank]
  · have hunits : 0 ≤ d.signedUnits := by
      rw [signedUnits_of_nonneg hd hp]
      omega
    have hhundred := one_le_hundred
    rw [placeOfRatio_nonneg (Int.mul_nonneg hunits (by omega))]
    omega

/-- The rank of the greatest double with a finite hundredfold, about 1.8e306. -/
def greatestQuotientRank : Nat := 9188604247731475578

def greatestQuotient : Double := .ofRank false greatestQuotientRank

theorem place?_greatestQuotient : greatestQuotient.place? = some greatestQuotientRank := by
  decide +kernel

theorem one_le_greatestQuotient : (unitsPerOne : Int) ≤ greatestQuotient.signedUnits := by
  decide +kernel

theorem hundredfoldRank_lt_iff {rank : Nat} (h : rank ≤ infinityRank) :
    hundredfoldRank rank < infinityRank ↔ rank ≤ greatestQuotientRank := by
  have hlast : hundredfoldRank greatestQuotientRank < infinityRank := by decide +kernel
  have hnext : hundredfoldRank (greatestQuotientRank + 1) = infinityRank := by decide +kernel
  have hbound : greatestQuotientRank ≤ infinityRank := by decide
  constructor
  · intro hlt
    refine Nat.le_of_not_lt fun hgt => ?_
    have hmono := hundredfoldRank_mono (r := greatestQuotientRank + 1) h hgt
    omega
  · intro hle
    have hmono := hundredfoldRank_mono hbound hle
    omega

theorem place?_abs (h : d.place? = some p) : d.abs.place? = some (p.natAbs : Int) := by
  cases d with
  | nan => cases h
  | number s r =>
    simp only [place?, Option.some.injEq] at h
    subst h
    cases s <;> simp [abs, place?]

theorem isFinite_hundredfold_iff (hd : d.place? = some p) :
    (d.mul (ofNat 100)).isFinite = true ↔ d.abs.le greatestQuotient = true := by
  obtain ⟨q, hq, hrank, -⟩ := place?_hundredfold hd
  rw [isFinite_iff_place hq, hrank, hundredfoldRank_lt_iff (natAbs_place hd),
    le_iff (place?_abs hd) place?_greatestQuotient]
  omega

/-- What is not finite and not below zero is infinite without a sign. -/
theorem eq_infinity (hp : d.place? = some p) (h0 : 0 ≤ p) (h : d.isFinite = false) :
    d = .infinity false := by
  cases d with
  | nan => cases hp
  | number s r =>
    have hr : r.val = infinityRank := by simpa [isFinite] using h
    have hs : s = false := by
      cases s with
      | false => rfl
      | true =>
        have hinfinity : 0 < infinityRank := by decide
        simp only [place?, ↓reduceIte, Option.some.injEq] at hp
        omega
    rw [hs, infinity, ← hr, ofRank_val]

end Double

/-! ## Changes -/

/-- There is a percentage for the change, or none is needed. -/
def Reportable (x y : Double) : Prop :=
  Double.zero.lt x = true → ((y.sub x).div x).abs.le .greatestQuotient = true

section Change

variable {x y : Duration}

theorem place?_quotient (hzero : Double.zero.lt x.val = true) (hx : x.val.isFinite = true)
    (hy : y.val.isFinite = true) : ((y.val.sub x.val).div x.val).place? =
      some (Double.placeOfRatio ((y.val.sub x.val).signedUnits * Double.unitsPerOne)
        x.val.signedUnits.natAbs) :=
  Double.place?_div (Duration.isFinite_sub hx hy) hx (Duration.signedUnits_pos hzero)

theorem isFinite_change_iff (hx : x.val.isFinite = true) (hy : y.val.isFinite = true) :
    (∀ p ∈ relativeChange x.val (y.val.sub x.val), p.isFinite = true) ↔
      Reportable x.val y.val := by
  cases hzero : Double.zero.lt x.val with
  | true =>
    rw [relativeChange_of_pos hzero]
    simp only [Option.mem_some_iff, forall_eq', Reportable, hzero, forall_const]
    exact Double.isFinite_hundredfold_iff (place?_quotient hzero hx hy)
  | false =>
    refine iff_of_true ?_ (fun h => nomatch hzero.symm.trans h)
    intro p hp
    rw [relativeChange, hzero, if_neg Bool.false_ne_true] at hp
    split at hp
    · cases hp
      decide +kernel
    · cases hp

/-- What is no greater than a duration is no more than one time as great. -/
theorem mul_unitsPerOne_le {n : Int} (h : n ≤ x.val.signedUnits) :
    n * Double.unitsPerOne ≤ Double.greatestQuotient.signedUnits * x.val.signedUnits :=
  calc n * Double.unitsPerOne
      ≤ x.val.signedUnits * Double.greatestQuotient.signedUnits :=
        Int.mul_le_mul h Double.one_le_greatestQuotient (Int.natCast_nonneg _) x.signedUnits_nonneg
    _ = Double.greatestQuotient.signedUnits * x.val.signedUnits := Int.mul_comm ..

/-- A candidate that takes up to the greatest quotient times as long can be reported on. -/
theorem reportable_of_le (hx : x.val.isFinite = true) (hy : y.val.isFinite = true)
    (h : y.val.signedUnits * Double.unitsPerOne ≤
      Double.greatestQuotient.signedUnits * x.val.signedUnits) : Reportable x.val y.val := by
  intro hzero
  have hplace := place?_quotient hzero hx hy
  have hpos := Duration.signedUnits_pos hzero
  have hgreatest : Double.greatestQuotient.signedUnits =
      Double.units Double.greatestQuotientRank := by
    decide +kernel
  -- the difference is bounded by one of the two durations, and for the baseline one would do
  have hdelta : ((y.val.sub x.val).signedUnits.natAbs : Int) * Double.unitsPerOne ≤
      Double.greatestQuotient.signedUnits * x.val.signedUnits := by
    rcases Duration.natAbs_sub_le x y with hle | hle
    · have hbound := Duration.natAbs_units_sub_le hx hy hle
      exact mul_unitsPerOne_le hbound
    · have hbound := Duration.natAbs_units_sub_le hx hy hle
      exact Int.le_trans (Int.mul_le_mul_of_nonneg_right hbound (by omega)) h
  rw [Double.le_iff (Double.place?_abs hplace) Double.place?_greatestQuotient,
    Double.natAbs_placeOfRatio, Int.natAbs_mul, Int.natAbs_natCast]
  refine Int.ofNat_le.mpr (Double.rankOfRatio_le (by decide) (by omega) ?_)
  rw [hgreatest] at hdelta
  have habs : (x.val.signedUnits.natAbs : Int) = x.val.signedUnits := by omega
  rw [← Int.ofNat_le, Int.natCast_mul, Int.natCast_mul, habs]
  exact hdelta

/-- The only other change is an infinite increase. -/
theorem relativeChange_of_not_reportable (hx : x.val.isFinite = true) (hy : y.val.isFinite = true)
    (h : ¬ Reportable x.val y.val) : relativeChange x.val (y.val.sub x.val) =
      some (.infinity false) := by
  cases hzero : Double.zero.lt x.val with
  | false => exact absurd (fun hpos => nomatch hzero.symm.trans hpos) h
  | true =>
    have hplace := place?_quotient hzero hx hy
    obtain ⟨q, hq, -, hnonneg⟩ := Double.place?_hundredfold hplace
    have hinfinite : (percentChange x.val y.val).isFinite = false := by
      refine Bool.eq_false_iff.mpr fun hfinite => h fun _ => ?_
      exact (Double.isFinite_hundredfold_iff hplace).mp hfinite
    have hlonger : x.val.signedUnits ≤ y.val.signedUnits := by
      refine Int.le_of_not_gt fun hlt => h (reportable_of_le hx hy ?_)
      exact mul_unitsPerOne_le (Int.le_of_lt hlt)
    have hquotient := Int.mul_nonneg (Duration.sub_nonneg hx hy hlonger)
      (Int.natCast_nonneg Double.unitsPerOne)
    have hpositive : 0 ≤ q := by
      refine hnonneg ?_
      rw [Double.placeOfRatio_nonneg hquotient]
      omega
    rw [relativeChange_of_pos hzero]
    exact congrArg some (Double.eq_infinity hq hpositive hinfinite)

end Change

/-! ## Reports -/

section Compare

variable {b c : ProofRecord} {t : Threshold} {r : ComparisonReport}

theorem exists_compare (b c : ProofRecord) (ht : Quantity.zero.lt t.value = true)
    (hfinite : t.value.toDouble.isFinite = true) : ∃ r, compare b c t = .ok r := by
  refine (exists_compare_iff b c t).mpr (t.check_eq_ok_iff.mpr ⟨?_, ?_⟩)
  · obtain ⟨hzero, hsome⟩ := Quantity.isSome_of_lt ht
    exact Bool.eq_false_iff.mpr ((Quantity.lt_iff_not_le hzero hsome).mp ht)
  · intro n hn
    rw [hn] at hfinite
    exact hfinite

/-- On finite durations only the change in percent can be infinite. -/
theorem printable_iff_reportable (h : compare b c t = .ok r)
    (hb : b.duration.val.isFinite = true) (hc : c.duration.val.isFinite = true)
    (ht : t.value.toDouble.isFinite = true) :
    r.toData.Printable ↔ Reportable b.duration.val c.duration.val := by
  rw [r.printable_iff, ← isFinite_change_iff hb hc, eq_of_compare h]
  exact ⟨fun hr => hr.percent, fun hp => ⟨hb, hc, Duration.isFinite_sub hb hc, hp, ht⟩⟩

theorem percent_of_not_reportable (h : compare b c t = .ok r)
    (hb : b.duration.val.isFinite = true) (hc : c.duration.val.isFinite = true)
    (hreportable : ¬ Reportable b.duration.val c.duration.val) :
    r.percent = some (.infinity false) := by
  rw [eq_of_compare h]
  exact relativeChange_of_not_reportable hb hc hreportable

end Compare

end ProofLedger
