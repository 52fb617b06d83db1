import ProofLedger.Number.Decimal
import ProofLedger.Proofs.Text.Numeral

/-!
# Rounding gives exact values back

`rankOfRatio` rounds a ratio of units to a rank. Two laws are all that reading numbers back
needs: it depends on the ratio and not on the two numbers (`rankOfRatio_congr`), and it
rounds nothing when the ratio is the value of a rank (`rankOfRatio_units`). On top of them
`shortest_rank` says that the decimal chosen for a rank is read as that rank. The search
behind `shortest` may come out empty for all this proof knows; then the exact value is taken,
and that is read back by the second law.
-/

namespace ProofLedger.Double

/-! ## The ratio alone counts -/

theorem rankOfRatio_mul (n d : Nat) {k : Nat} (hk : 0 < k) :
    rankOfRatio (n * k) (d * k) = rankOfRatio n d := by
  have hstep : ∀ shift, 2 ^ shift * (d * k) = 2 ^ shift * d * k := fun shift => by
    rw [Nat.mul_assoc]
  simp only [rankOfRatio, Nat.mul_div_mul_right _ _ hk, hstep, Nat.mul_mod_mul_right]
  generalize 2 ^ ((n / d).log2 - 52) * d = step
  have hlt : step * k < 2 * (n % step * k) ↔ step < 2 * (n % step) := by
    rw [← Nat.mul_assoc]
    exact Nat.mul_lt_mul_right hk
  have heq : 2 * (n % step * k) = step * k ↔ 2 * (n % step) = step := by
    rw [← Nat.mul_assoc]
    exact Nat.mul_left_inj (by omega)
  simp only [hlt, heq]

/-- Equal ratios have the same rank. -/
theorem rankOfRatio_congr {n₁ d₁ n₂ d₂ : Nat} (h₁ : 0 < d₁) (h₂ : 0 < d₂)
    (h : n₁ * d₂ = n₂ * d₁) : rankOfRatio n₁ d₁ = rankOfRatio n₂ d₂ := by
  rw [← rankOfRatio_mul n₁ d₁ h₂, h, Nat.mul_comm d₁ d₂, rankOfRatio_mul n₂ d₂ h₁]

/-! ## Values of ranks are not rounded -/

theorem units_pos {rank : Nat} (h : rank ≠ 0) : 0 < units rank := by
  unfold units
  split
  · omega
  · exact Nat.mul_pos (by omega) (Nat.pow_pos (by decide))

/-- Above the first 2^52 ranks the value is a significand of 53 bits and a power of two. -/
theorem log2_units {rank : Nat} (h : 2 ^ 52 ≤ rank) :
    (units rank).log2 = 52 + (rank / 2 ^ 52 - 1) := by
  rw [units, if_neg (by omega)]
  have hlow : 2 ^ 52 ≤ 2 ^ 52 + rank % 2 ^ 52 := Nat.le_add_right _ _
  have hhigh : 2 ^ 52 + rank % 2 ^ 52 < 2 ^ 53 := by omega
  have hne : (2 ^ 52 + rank % 2 ^ 52) * 2 ^ (rank / 2 ^ 52 - 1) ≠ 0 :=
    Nat.mul_ne_zero (by omega) (Nat.ne_of_gt (Nat.pow_pos (by decide)))
  refine (Nat.log2_eq_iff hne).mpr ⟨?_, ?_⟩
  · rw [Nat.pow_add]
    exact Nat.mul_le_mul_right _ hlow
  · rw [show 52 + (rank / 2 ^ 52 - 1) + 1 = 53 + (rank / 2 ^ 52 - 1) by omega, Nat.pow_add]
    exact Nat.mul_lt_mul_of_pos_right hhigh (Nat.pow_pos (by decide))

/-- The rank nearest to the value of a rank is that rank. -/
theorem rankOfRatio_units {rank : Nat} (h : rank ≤ infinityRank) :
    rankOfRatio (units rank) 1 = rank := by
  by_cases hsmall : rank < 2 ^ 52
  · have hunits : units rank = rank := if_pos hsmall
    have hlog : rank.log2 - 52 = 0 := by
      by_cases h0 : rank = 0
      · subst h0
        rfl
      · have := (Nat.log2_lt h0).mpr hsmall
        omega
    simp only [rankOfRatio, hunits, Nat.div_one, hlog, Nat.pow_zero, Nat.mul_one, Nat.mod_one,
      Nat.zero_mul, Nat.zero_add]
    simp only [Nat.mul_zero, Nat.not_lt_zero, Nat.zero_ne_one, false_and, or_self, ↓reduceIte]
    exact Nat.min_eq_right h
  · have hbig : 2 ^ 52 ≤ rank := by omega
    have hshift : (units rank).log2 - 52 = rank / 2 ^ 52 - 1 := by
      rw [log2_units hbig]
      omega
    have hpow : 0 < 2 ^ (rank / 2 ^ 52 - 1) := Nat.pow_pos (by decide)
    have hunits : units rank = (2 ^ 52 + rank % 2 ^ 52) * 2 ^ (rank / 2 ^ 52 - 1) :=
      if_neg (by omega)
    simp only [rankOfRatio, Nat.div_one, hshift, Nat.mul_one]
    rw [hunits, Nat.mul_div_cancel _ hpow, Nat.mul_mod_left]
    -- nothing is left over, so nothing is rounded up
    have hup : ¬ (2 ^ (rank / 2 ^ 52 - 1) < 2 * 0 ∨
        2 * 0 = 2 ^ (rank / 2 ^ 52 - 1) ∧ (2 ^ 52 + rank % 2 ^ 52) % 2 = 1) := by
      omega
    rw [if_neg hup]
    omega

/-- A rank is the place of its double. -/
theorem ofRank_val (negative : Bool) (r : Fin (infinityRank + 1)) :
    ofRank negative r.val = .number negative r := by
  have hr : min infinityRank r.val = r.val := by
    have := r.isLt
    omega
  simp only [ofRank, hr]

end ProofLedger.Double

namespace ProofLedger.Decimal

/-! ## The rank of a decimal -/

/-- The rank by one ratio, whatever the sign of the exponent. -/
theorem rank_eq (d : Decimal) :
    d.rank =
      if d.digits = 0 ∨ (length d.digits : Int) + d.exponent < -400 then 0
      else if 400 < (length d.digits : Int) + d.exponent then infinityRank
      else Double.rankOfRatio (d.digits * 10 ^ d.exponent.toNat * Double.unitsPerOne)
        (10 ^ (-d.exponent).toNat) := by
  unfold rank
  simp only
  split
  · rfl
  split
  · rfl
  split
  · next hexp =>
    rw [show (-d.exponent).toNat = 0 by omega, Nat.pow_zero]
  · next hexp =>
    rw [show d.exponent.toNat = 0 by omega, Nat.pow_zero, Nat.mul_one]

theorem length_mul_pow {n : Nat} (hn : n ≠ 0) (k : Nat) : length (n * 10 ^ k) = length n + k := by
  rw [length, Text.ofNat_mul_pow hn, List.length_append, List.length_replicate, length]

/-- Zeros at the end of the digits may stand in the exponent instead. -/
theorem rank_mul_pow (n k : Nat) (e : Int) :
    (⟨n * 10 ^ k, e - k⟩ : Decimal).rank = (⟨n, e⟩ : Decimal).rank := by
  rw [rank_eq, rank_eq]
  by_cases hn : n = 0
  · simp [hn]
  · have hpow : 0 < 10 ^ k := Nat.pow_pos (by decide)
    have hprod : n * 10 ^ k ≠ 0 := Nat.mul_ne_zero hn (by omega)
    have hmag : ((length (n * 10 ^ k) : Nat) : Int) + (e - k) = length n + e := by
      rw [length_mul_pow hn]
      omega
    have hratio : Double.rankOfRatio (n * 10 ^ k * 10 ^ (e - k).toNat * Double.unitsPerOne)
          (10 ^ (-(e - k)).toNat) =
        Double.rankOfRatio (n * 10 ^ e.toNat * Double.unitsPerOne) (10 ^ (-e).toNat) := by
      refine Double.rankOfRatio_congr (Nat.pow_pos (by decide)) (Nat.pow_pos (by decide)) ?_
      have hexp : k + (e - k).toNat + (-e).toNat = e.toNat + (-(e - k)).toNat := by omega
      have hten : 10 ^ k * 10 ^ (e - k).toNat * 10 ^ (-e).toNat =
          10 ^ e.toNat * 10 ^ (-(e - k)).toNat := by
        rw [← Nat.pow_add, ← Nat.pow_add, ← Nat.pow_add, hexp]
      calc n * 10 ^ k * 10 ^ (e - k).toNat * Double.unitsPerOne * 10 ^ (-e).toNat
          = n * (10 ^ k * 10 ^ (e - k).toNat * 10 ^ (-e).toNat) * Double.unitsPerOne := by grind
        _ = n * (10 ^ e.toNat * 10 ^ (-(e - k)).toNat) * Double.unitsPerOne := by rw [hten]
        _ = n * 10 ^ e.toNat * Double.unitsPerOne * 10 ^ (-(e - k)).toNat := by grind
    simp only [hn, hprod, false_or, hmag, hratio]

/-! ## The decimal of a rank -/

/-- Units are powers of two, so as many powers of five make powers of ten of them. -/
theorem mul_five_pow (n k : Nat) : n * 5 ^ k * 2 ^ k = n * 10 ^ k := by
  rw [Nat.mul_assoc, ← Nat.mul_pow]

theorem rankOfRatio_five (u k : Nat) :
    Double.rankOfRatio (u * 5 ^ k * 2 ^ k) (10 ^ k) = Double.rankOfRatio u 1 := by
  have h := Double.rankOfRatio_mul u 1 (k := 10 ^ k) (Nat.pow_pos (by decide))
  rwa [Nat.one_mul, ← mul_five_pow] at h

/-- The values of finite ranks are below 2^1024. -/
theorem units_lt {rank : Nat} (h : rank < infinityRank) :
    Double.units rank < 2 ^ (1024 + 1074) := by
  rw [Double.units]
  split
  · next hsmall =>
    have hpow := Nat.pow_le_pow_right (n := 2) (by decide) (by decide : 52 ≤ 1024 + 1074)
    exact Nat.lt_of_lt_of_le hsmall hpow
  · have hexp : rank / 2 ^ 52 - 1 ≤ 2045 := by
      unfold infinityRank at h
      omega
    have hsig : 2 ^ 52 + rank % 2 ^ 52 < 2 ^ 53 := by omega
    calc (2 ^ 52 + rank % 2 ^ 52) * 2 ^ (rank / 2 ^ 52 - 1)
        < 2 ^ 53 * 2 ^ (rank / 2 ^ 52 - 1) :=
          Nat.mul_lt_mul_of_pos_right hsig (Nat.pow_pos (by decide))
      _ = 2 ^ (53 + (rank / 2 ^ 52 - 1)) := (Nat.pow_add ..).symm
      _ ≤ 2 ^ (1024 + 1074) := Nat.pow_le_pow_right (by decide) (by omega)

theorem ten_pow_le_five_pow : 10 ^ 673 ≤ 5 ^ 1074 :=
  calc 10 ^ 673
      ≤ 10 ^ (2 * 358) := Nat.pow_le_pow_right (by decide) (by decide)
    _ = (10 ^ 2) ^ 358 := Nat.pow_mul ..
    _ ≤ (5 ^ 3) ^ 358 := Nat.pow_le_pow_left (by decide) 358
    _ = 5 ^ 1074 := (Nat.pow_mul 5 3 358).symm

theorem two_pow_le_ten_pow : 2 ^ 1024 ≤ 10 ^ 400 :=
  calc 2 ^ 1024
      ≤ 2 ^ (3 * 400) := Nat.pow_le_pow_right (by decide) (by decide)
    _ = (2 ^ 3) ^ 400 := Nat.pow_mul ..
    _ ≤ 10 ^ 400 := Nat.pow_le_pow_left (by decide) 400

/-- How many digits the exact value of a finite rank has. -/
theorem length_exact {rank : Nat} (h0 : rank ≠ 0) (h : rank < infinityRank) :
    674 ≤ length (exact rank).digits ∧ length (exact rank).digits ≤ 1474 := by
  have hlow : 10 ^ 673 ≤ Double.units rank * 5 ^ 1074 :=
    Nat.le_trans ten_pow_le_five_pow (Nat.le_mul_of_pos_left _ (Double.units_pos h0))
  have hhigh : Double.units rank * 5 ^ 1074 < 10 ^ (400 + 1074) :=
    calc Double.units rank * 5 ^ 1074
        < 2 ^ (1024 + 1074) * 5 ^ 1074 :=
          Nat.mul_lt_mul_of_pos_right (units_lt h) (Nat.pow_pos (by decide))
      _ = 2 ^ 1024 * 5 ^ 1074 * 2 ^ 1074 := by rw [Nat.pow_add, Nat.mul_right_comm]
      _ = 2 ^ 1024 * 10 ^ 1074 := mul_five_pow _ _
      _ ≤ 10 ^ 400 * 10 ^ 1074 := Nat.mul_le_mul_right _ two_pow_le_ten_pow
      _ = 10 ^ (400 + 1074) := by rw [Nat.pow_add 10 400]
  have hlength : length (exact rank).digits ≤ 400 + 1074 :=
    (Text.length_ofNat_le_iff _ (by decide)).mpr hhigh
  exact ⟨(Text.lt_length_ofNat_iff _ (by decide)).mpr hlow, hlength⟩

/-- The exact value of a rank is read as that rank. -/
theorem exact_rank {rank : Nat} (h0 : rank ≠ 0) (h : rank < infinityRank) :
    (exact rank).rank = rank := by
  obtain ⟨hlow, hhigh⟩ := length_exact h0 h
  have hdigits : (exact rank).digits ≠ 0 :=
    Nat.mul_ne_zero (Nat.ne_of_gt (Double.units_pos h0))
      (Nat.ne_of_gt (Nat.pow_pos (by decide)))
  have hexp : (exact rank).exponent = -1074 := rfl
  rw [rank_eq, if_neg (by omega), if_neg (by omega), hexp]
  have hpos : (-1074 : Int).toNat = 0 := rfl
  have hneg : (- -1074 : Int).toNat = 1074 := rfl
  rw [hpos, hneg, Nat.pow_zero, Nat.mul_one]
  exact (rankOfRatio_five (Double.units rank) 1074).trans
    (Double.rankOfRatio_units (Nat.le_of_lt h))

theorem whichReads?_rank {rank : Nat} {lower : Bool} {below above d : Decimal}
    (h : whichReads? rank lower below above = some d) : d.rank = rank := by
  unfold whichReads? at h
  grind

theorem search?_rank {rank : Nat} {d : Decimal} (h : search? rank = some d) : d.rank = rank := by
  obtain ⟨i, _, hi⟩ := List.exists_of_findSome?_eq_some h
  exact whichReads?_rank hi

theorem tidy_rank {rank : Nat} {d : Decimal} (h : d.rank = rank) : (tidy rank d).rank = rank := by
  unfold tidy
  split
  · assumption
  · exact h

/-- What is written for a rank is read as that rank. -/
theorem shortest_rank {rank : Nat} (h0 : rank ≠ 0) (h : rank < infinityRank) :
    (shortest rank).rank = rank := by
  unfold shortest
  cases hfound : search? rank with
  | none => exact exact_rank h0 h
  | some d => exact tidy_rank (search?_rank hfound)

/-- A rank other than zero has digits. -/
theorem shortest_digits {rank : Nat} (h0 : rank ≠ 0) (h : rank < infinityRank) :
    (shortest rank).digits ≠ 0 := by
  intro hd
  have hrank := shortest_rank h0 h
  rw [rank_eq, if_pos (.inl hd)] at hrank
  exact h0 hrank.symm

end ProofLedger.Decimal
