import ProofLedger.Comparison
import ProofLedger.Proofs.Number.Quantity

/-!
# The change of a duration

The change from one duration to another, in percent of the first, is a difference, a quotient and a
product. It is greater for a longer candidate (`percentChange_mono`), zero for the baseline itself
(`percentChange_self`), and at least as great, with the other sign, when a shorter duration takes
the place of the baseline (`percentChange_swap`).
-/

namespace ProofLedger

namespace Double

variable {d e : Double}

theorem signedUnits_zero : zero.signedUnits = 0 := by decide +kernel

theorem sub_self (hd : d.isFinite = true) : d.sub d = zero := by
  unfold sub
  rw [isNan_of_isFinite hd, isInfinite_of_isFinite hd, Int.sub_self, Bool.and_not_self]
  rfl

theorem zero_div (hd : d.isFinite = true) (hpos : 0 < d.signedUnits) : zero.div d = zero := by
  unfold div
  rw [isNan_of_isFinite hd, isInfinite_of_isFinite hd, isNegative_of_pos hpos,
    if_neg (by decide), if_neg (by decide), if_neg (by decide), if_neg (by omega)]
  rw [signedUnits_zero, Int.natAbs_zero, Nat.zero_mul, ofRatio, rankOfRatio_zero]
  rfl

/-- One hundred is not rounded to anything below one. -/
theorem one_le_hundred : (unitsPerOne : Int) ≤ (ofNat 100).signedUnits := by decide +kernel

theorem isFinite_hundred : (ofNat 100).isFinite = true := by decide +kernel

end Double

/-- The record of the same run, had it taken so long. -/
def ProofRecord.lasting (r : ProofRecord) (d : Duration) : ProofRecord := { r with duration := d }

theorem ProofRecord.proofHash_lasting (r : ProofRecord) (d e : Duration) :
    (r.lasting d).proofHash = (r.lasting e).proofHash := rfl

namespace Duration

/-- The duration of a rank. -/
def ofRank (rank : Nat) : Duration :=
  ⟨.ofRank false rank, (Double.le_iff Double.place?_zero rfl).mpr (Int.natCast_nonneg _)⟩

/-- So many seconds. -/
def ofNat (n : Nat) : Duration := ofRank (Double.rankOfRatio (n * Double.unitsPerOne) 1)

theorem exists_place (x : Duration) : ∃ p, x.val.place? = some p ∧ 0 ≤ p := by
  obtain ⟨z, p, hz, hp, hzp⟩ := Double.exists_places x.property
  obtain rfl : 0 = z := Option.some.inj hz
  exact ⟨p, hp, hzp⟩

theorem isNan_val (x : Duration) : x.val.isNan = false := by
  obtain ⟨p, hp, -⟩ := x.exists_place
  exact Double.isNan_of_place hp

theorem signedUnits_nonneg (x : Duration) : 0 ≤ x.val.signedUnits :=
  Double.signedUnits_mono x.property

variable {x y y' : Duration}

theorem signedUnits_pos (h : Double.zero.lt x.val = true) : 0 < x.val.signedUnits :=
  (Double.signedUnits_pos_iff x.isNan_val).mpr h

/-- A difference is at no greater distance from zero than a duration that bounds it. -/
theorem natAbs_place_sub_le {z : Duration} {p q : Int} (hx : x.val.isFinite = true)
    (hy : y.val.isFinite = true) (hz : z.val.place? = some p)
    (hle : (y.val.signedUnits - x.val.signedUnits).natAbs ≤ z.val.signedUnits)
    (hsub : (y.val.sub x.val).place? = some q) : q.natAbs ≤ p.natAbs := by
  obtain ⟨p', hp', hnonneg⟩ := z.exists_place
  obtain rfl : p = p' := Option.some.inj (hz.symm.trans hp')
  have hbound := Double.natAbs_place hz
  rw [Double.place?_sub hy hx] at hsub
  rw [Double.signedUnits_of_nonneg hz hnonneg] at hle
  rw [← Option.some.inj hsub, Double.natAbs_placeOfRatio]
  exact Double.rankOfRatio_le hbound Nat.one_pos (by omega)

theorem natAbs_units_sub_le {z : Duration} (hx : x.val.isFinite = true)
    (hy : y.val.isFinite = true)
    (hle : (y.val.signedUnits - x.val.signedUnits).natAbs ≤ z.val.signedUnits) :
    (y.val.sub x.val).signedUnits.natAbs ≤ z.val.signedUnits := by
  obtain ⟨p, hp, hnonneg⟩ := z.exists_place
  have hsub := Double.place?_sub hy hx
  have hplace := natAbs_place_sub_le hx hy hp hle hsub
  rw [Double.signedUnits_of_place hsub, Double.signedUnits_of_nonneg hp hnonneg,
    Double.natAbs_unitsAt]
  exact Int.ofNat_le.mpr (Double.units_le_units (Double.natAbs_place hp) hplace)

/-- The difference of two durations is bounded by the longer one. -/
theorem natAbs_sub_le (x y : Duration) :
    (y.val.signedUnits - x.val.signedUnits).natAbs ≤ x.val.signedUnits ∨
      (y.val.signedUnits - x.val.signedUnits).natAbs ≤ y.val.signedUnits := by
  have hx := x.signedUnits_nonneg
  have hy := y.signedUnits_nonneg
  omega

/-- Finite durations are not so far apart that their difference would be infinite. -/
theorem isFinite_sub (hx : x.val.isFinite = true) (hy : y.val.isFinite = true) :
    (y.val.sub x.val).isFinite = true := by
  have hsub := Double.place?_sub hy hx
  rw [Double.isFinite_iff_place hsub]
  rcases natAbs_sub_le x y with hle | hle
  · obtain ⟨p, hp, -⟩ := x.exists_place
    exact Nat.lt_of_le_of_lt (natAbs_place_sub_le hx hy hp hle hsub)
      ((Double.isFinite_iff_place hp).mp hx)
  · obtain ⟨p, hp, -⟩ := y.exists_place
    exact Nat.lt_of_le_of_lt (natAbs_place_sub_le hx hy hp hle hsub)
      ((Double.isFinite_iff_place hp).mp hy)

theorem sub_nonneg (hx : x.val.isFinite = true) (hy : y.val.isFinite = true)
    (h : x.val.signedUnits ≤ y.val.signedUnits) : 0 ≤ (y.val.sub x.val).signedUnits := by
  refine Double.signedUnits_mono (a := .zero) ?_
  rw [Double.le_iff Double.place?_zero (Double.place?_sub hy hx),
    Double.placeOfRatio_nonneg (by omega)]
  omega

end Duration

/-! ## Percentages -/

/-- The change from one duration to another in percent of the first. -/
def percentChange (x y : Double) : Double := ((y.sub x).div x).mul (.ofNat 100)

section Percent

variable {x y y' : Duration}

theorem relativeChange_of_pos (h : Double.zero.lt x.val = true) :
    relativeChange x.val (y.val.sub x.val) = some (percentChange x.val y.val) := if_pos h

theorem percentChange_mono (hzero : Double.zero.lt x.val = true) (hx : x.val.isFinite = true)
    (hy : y.val.isFinite = true) (hy' : y'.val.isFinite = true) (h : y.val.le y'.val = true) :
    (percentChange x.val y.val).le (percentChange x.val y'.val) = true :=
  Double.mul_le_mul Double.isFinite_hundred Double.one_le_hundred <|
    Double.div_le_div (Duration.isFinite_sub hx hy) (Duration.isFinite_sub hx hy') hx
      (Duration.signedUnits_pos hzero) (Double.sub_le_sub hy hy' hx h)

theorem isNan_percentChange (hzero : Double.zero.lt x.val = true) (hx : x.val.isFinite = true)
    (hy : y.val.isFinite = true) : (percentChange x.val y.val).isNan = false := by
  have hdiv := Double.place?_div (Duration.isFinite_sub hx hy) hx (Duration.signedUnits_pos hzero)
  exact Double.isNan_of_place
    (Double.place?_mul (Double.isNan_of_place hdiv) Double.isFinite_hundred Double.one_le_hundred)

theorem percentChange_self (hzero : Double.zero.lt x.val = true) (hx : x.val.isFinite = true) :
    percentChange x.val x.val = .zero := by
  rw [percentChange, Double.sub_self hx, Double.zero_div hx (Duration.signedUnits_pos hzero)]
  decide +kernel

/-- There is no change from a finite duration to itself, also where it is zero. -/
theorem relativeChange_self (hx : x.val.isFinite = true) :
    relativeChange x.val (x.val.sub x.val) = some .zero := by
  cases hzero : Double.zero.lt x.val with
  | true => rw [relativeChange_of_pos hzero, percentChange_self hzero hx]
  | false =>
    rw [relativeChange, hzero, Double.sub_self hx, if_neg Bool.false_ne_true]
    decide +kernel

/-- With the shorter duration in the place of the baseline the change counts for more. -/
theorem percentChange_swap (hx : x.val.isFinite = true) (hy : y.val.isFinite = true)
    (hzero : Double.zero.lt y.val = true) (h : y.val.lt x.val = true) :
    (percentChange x.val y.val).neg.le (percentChange y.val x.val) = true := by
  have hunits : y.val.signedUnits < x.val.signedUnits := Double.signedUnits_lt h
  have hsub : (y.val.sub x.val).neg = x.val.sub y.val := Double.neg_sub hy hx (by omega)
  have hnonneg := Duration.sub_nonneg hy hx (Int.le_of_lt hunits)
  calc (percentChange x.val y.val).neg.le (percentChange y.val x.val)
      = (((x.val.sub y.val).div x.val).mul (.ofNat 100)).le
          (((x.val.sub y.val).div y.val).mul (.ofNat 100)) := by
        rw [percentChange, ← Double.neg_mul, ← Double.neg_div, hsub, percentChange]
    _ = true := Double.mul_le_mul Double.isFinite_hundred Double.one_le_hundred
        (Double.div_le_div_left (Duration.isFinite_sub hy hx) hnonneg hy hx
          (Duration.signedUnits_pos hzero) (Double.le_of_lt h))

end Percent

end ProofLedger
