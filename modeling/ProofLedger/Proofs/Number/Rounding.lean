import ProofLedger.Proofs.Number.Rank

/-!
# Arithmetic and order

Differences, quotients and products of doubles are rounded to the nearest double, and nearest
doubles are in the order of the values they are nearest to (`rankOfRatio_mono`). So an operation has
a greater result for a greater operand (`sub_le_sub`, `div_le_div`, `mul_le_mul`), and a lesser one
for a greater divisor (`div_le_div_left`); and since the sign has no part in rounding, it can be
taken out (`neg_sub`, `neg_div`, `neg_mul`).

A double is met here by its place among the doubles. `placeOfRatio` is the place of the double that
is nearest to a ratio of units, and each operation comes to one such place (`place?_sub`,
`place?_div`, `place?_mul`). The hundredfold of infinity, which has no value, fits in as well: the
rank of infinity has the units that would come next.
-/

namespace ProofLedger.Double

/-! ## Nearest whole numbers -/

section Rounded

variable {n n' d : Nat}

theorem div_le_roundedRatio (n d : Nat) : n / d ≤ roundedRatio n d := by
  unfold roundedRatio
  dsimp only
  split <;> omega

theorem roundedRatio_le (n d : Nat) : roundedRatio n d ≤ n / d + 1 := by
  unfold roundedRatio
  dsimp only
  split <;> omega

theorem roundedRatio_mono (h : n ≤ n') : roundedRatio n d ≤ roundedRatio n' d := by
  have hfloor : n / d ≤ n' / d := Nat.div_le_div_right h
  by_cases heq : n / d = n' / d
  · -- on one floor the rests are in order, and so is what is rounded up
    have hrest : n % d ≤ n' % d := by
      have hn := Nat.div_add_mod n d
      have hn' := Nat.div_add_mod n' d
      rw [heq] at hn
      omega
    unfold roundedRatio
    dsimp only
    split
    · next hup =>
      rw [if_pos (by omega)]
      omega
    · split <;> omega
  · have hnext := roundedRatio_le n d
    have hleast := div_le_roundedRatio n' d
    omega

end Rounded

/-! ## Nearest ranks -/

/-- A ratio is rounded in steps of a power of two. -/
theorem rankOfRatio_eq (n d : Nat) :
    rankOfRatio n d = min infinityRank (((n / d).log2 - 52) * 2 ^ 52 +
      roundedRatio n (2 ^ ((n / d).log2 - 52) * d)) := by
  unfold rankOfRatio roundedRatio
  dsimp only
  split
  · rw [Nat.add_assoc]
  · rw [Nat.add_zero]

/-- In steps of this size a ratio has at most 53 binary digits before the point. -/
theorem div_step_lt (n d : Nat) : n / (2 ^ ((n / d).log2 - 52) * d) < 2 ^ 53 := by
  rw [Nat.mul_comm, ← Nat.div_div_eq_div_mul, Nat.div_lt_iff_lt_mul (Nat.two_pow_pos _),
    ← Nat.pow_add]
  exact Nat.lt_of_lt_of_le Nat.lt_log2_self (Nat.pow_le_pow_right (by decide) (by omega))

/-- And it has as many as that, unless the step is the least. -/
theorem le_div_step {n d : Nat} (h : 52 < (n / d).log2) :
    2 ^ 52 ≤ n / (2 ^ ((n / d).log2 - 52) * d) := by
  have hpos : n / d ≠ 0 := by
    intro hzero
    rw [hzero, Nat.log2_zero] at h
    omega
  rw [Nat.mul_comm, ← Nat.div_div_eq_div_mul, Nat.le_div_iff_mul_le (Nat.two_pow_pos _),
    ← Nat.pow_add, show 52 + ((n / d).log2 - 52) = (n / d).log2 by omega]
  exact Nat.log2_self_le hpos

theorem rankOfRatio_mono_left {n n' d : Nat} (h : n ≤ n') : rankOfRatio n d ≤ rankOfRatio n' d := by
  have hfloor : n / d ≤ n' / d := Nat.div_le_div_right h
  have hshift : (n / d).log2 - 52 ≤ (n' / d).log2 - 52 := by
    by_cases hzero : n / d = 0
    · rw [hzero, Nat.log2_zero]
      omega
    · have hzero' : n' / d ≠ 0 := fun h => hzero (Nat.le_zero.mp (h ▸ hfloor))
      have hlog := (Nat.le_log2 hzero').mpr (Nat.le_trans (Nat.log2_self_le hzero) hfloor)
      omega
  rw [rankOfRatio_eq, rankOfRatio_eq]
  refine Nat.le_min.mpr ⟨Nat.min_le_left .., Nat.le_trans (Nat.min_le_right ..) ?_⟩
  rcases Nat.eq_or_lt_of_le hshift with heq | hlt
  · rw [heq]
    exact Nat.add_le_add_left (roundedRatio_mono h) _
  · -- a greater step starts where the lesser one ends
    have hnext := roundedRatio_le n (2 ^ ((n / d).log2 - 52) * d)
    have hsmall := div_step_lt n d
    have hleast := div_le_roundedRatio n' (2 ^ ((n' / d).log2 - 52) * d)
    have hlarge := le_div_step (n := n') (d := d) (by omega)
    omega

/-- A greater ratio has no lesser rank. -/
theorem rankOfRatio_mono {n₁ d₁ n₂ d₂ : Nat} (h₁ : 0 < d₁) (h₂ : 0 < d₂)
    (h : n₁ * d₂ ≤ n₂ * d₁) : rankOfRatio n₁ d₁ ≤ rankOfRatio n₂ d₂ := by
  rw [← rankOfRatio_mul n₁ d₁ h₂, ← rankOfRatio_mul n₂ d₂ h₁, Nat.mul_comm d₂ d₁]
  exact rankOfRatio_mono_left h

theorem rankOfRatio_le_infinity (n d : Nat) : rankOfRatio n d ≤ infinityRank := by
  rw [rankOfRatio_eq]
  exact Nat.min_le_left ..

/-- What is at least the value of a rank has no lesser rank. -/
theorem le_rankOfRatio {rank n d : Nat} (hr : rank ≤ infinityRank) (hd : 0 < d)
    (h : units rank * d ≤ n) : rank ≤ rankOfRatio n d := by
  have hmono : rankOfRatio (units rank) 1 ≤ rankOfRatio n d :=
    rankOfRatio_mono Nat.one_pos hd (by omega)
  rwa [rankOfRatio_units hr] at hmono

/-- What is at most the value of a rank has no greater rank. -/
theorem rankOfRatio_le {rank n d : Nat} (hr : rank ≤ infinityRank) (hd : 0 < d)
    (h : n ≤ units rank * d) : rankOfRatio n d ≤ rank := by
  have hmono : rankOfRatio n d ≤ rankOfRatio (units rank) 1 :=
    rankOfRatio_mono hd Nat.one_pos (by omega)
  rwa [rankOfRatio_units hr] at hmono

theorem rankOfRatio_zero (d : Nat) : rankOfRatio 0 d = 0 := by
  rcases Nat.eq_zero_or_pos d with rfl | hd
  · rfl
  · exact Nat.le_zero.mp (rankOfRatio_le (Nat.zero_le _) hd (Nat.zero_le _))

/-- Values are in the order of their ranks. -/
theorem units_lt_units {r s : Nat} (hs : s ≤ infinityRank) (h : r < s) : units r < units s := by
  refine Nat.lt_of_not_le fun hle => ?_
  have hrank : s ≤ rankOfRatio (units r) 1 := le_rankOfRatio hs Nat.one_pos (by omega)
  rw [rankOfRatio_units (by omega)] at hrank
  omega

theorem units_le_units {r s : Nat} (hs : s ≤ infinityRank) (h : r ≤ s) : units r ≤ units s := by
  rcases Nat.eq_or_lt_of_le h with rfl | hlt
  · exact Nat.le_refl _
  · exact Nat.le_of_lt (units_lt_units hs hlt)

/-! ## Places -/

/-- The place of the double that is nearest to a ratio of units. -/
def placeOfRatio (n : Int) (d : Nat) : Int :=
  if n < 0 then -(rankOfRatio n.natAbs d : Int) else rankOfRatio n.natAbs d

section Ratio

variable {n n' : Int} {d d' : Nat}

theorem placeOfRatio_zero (d : Nat) : placeOfRatio 0 d = 0 := by
  simp [placeOfRatio, rankOfRatio_zero]

theorem placeOfRatio_nonneg (h : 0 ≤ n) : placeOfRatio n d = rankOfRatio n.natAbs d :=
  if_neg (by omega)

theorem natAbs_placeOfRatio (n : Int) (d : Nat) :
    (placeOfRatio n d).natAbs = rankOfRatio n.natAbs d := by
  unfold placeOfRatio
  split
  · rw [Int.natAbs_neg, Int.natAbs_natCast]
  · rw [Int.natAbs_natCast]

theorem placeOfRatio_mono (h : n ≤ n') : placeOfRatio n d ≤ placeOfRatio n' d := by
  unfold placeOfRatio
  split
  · next hn =>
    split
    · have hrank := rankOfRatio_mono_left (d := d) (show n'.natAbs ≤ n.natAbs by omega)
      omega
    · omega
  · next hn =>
    rw [if_neg (by omega)]
    have hrank := rankOfRatio_mono_left (d := d) (show n.natAbs ≤ n'.natAbs by omega)
    omega

/-- What is divided by more comes to less. -/
theorem placeOfRatio_anti (hn : 0 ≤ n) (hd : 0 < d) (h : d ≤ d') :
    placeOfRatio n d' ≤ placeOfRatio n d := by
  rw [placeOfRatio_nonneg hn, placeOfRatio_nonneg hn]
  have hrank := rankOfRatio_mono (Nat.lt_of_lt_of_le hd h) hd (Nat.mul_le_mul_left n.natAbs h)
  omega

/-- A double with the sign of a ratio and nearest to its magnitude stands at its place. -/
theorem place?_ofRatio {s : Bool} (h : if s then n ≤ 0 else 0 ≤ n) :
    (ofRatio s n.natAbs d).place? = some (placeOfRatio n d) := by
  have hrank := rankOfRatio_le_infinity n.natAbs d
  simp only [ofRatio, ofRank, place?, Nat.min_eq_right hrank, Option.some.injEq]
  cases s with
  | true =>
    rcases Int.lt_or_eq_of_le h with hn | rfl
    · rw [placeOfRatio, if_pos hn, if_pos rfl]
    · rw [placeOfRatio_zero, Int.natAbs_zero, rankOfRatio_zero]
      rfl
  | false => rw [placeOfRatio_nonneg h, if_neg Bool.false_ne_true]

end Ratio

/-- The value at a place. -/
def unitsAt (p : Int) : Int := if p < 0 then -(units p.natAbs : Int) else units p.natAbs

theorem natAbs_unitsAt (p : Int) : (unitsAt p).natAbs = units p.natAbs := by
  unfold unitsAt
  split <;> omega

section Place

variable {d e f : Double} {p q : Int}

theorem unitsAt_lt (hp : p.natAbs ≤ infinityRank) (hq : q.natAbs ≤ infinityRank) (h : p < q) :
    unitsAt p < unitsAt q := by
  unfold unitsAt
  split
  · next hneg =>
    split
    · have hunits := units_lt_units hp (show q.natAbs < p.natAbs by omega)
      omega
    · have hunits := units_pos (show p.natAbs ≠ 0 by omega)
      omega
  · rw [if_neg (by omega)]
    have hunits := units_lt_units hq (show p.natAbs < q.natAbs by omega)
    omega

/-- Values are in the order of their places. -/
theorem unitsAt_le_iff (hp : p.natAbs ≤ infinityRank) (hq : q.natAbs ≤ infinityRank) :
    unitsAt p ≤ unitsAt q ↔ p ≤ q := by
  constructor
  · intro hunits
    refine Int.le_of_not_gt fun hlt => ?_
    have hback := unitsAt_lt hq hp hlt
    omega
  · intro hle
    rcases Int.lt_or_eq_of_le hle with hlt | rfl
    · exact Int.le_of_lt (unitsAt_lt hp hq hlt)
    · exact Int.le_refl _

theorem unitsAt_pos_iff (hp : p.natAbs ≤ infinityRank) : 0 < unitsAt p ↔ 0 < p := by
  have hzero := unitsAt_le_iff (q := 0) hp (Nat.zero_le _)
  rw [show unitsAt 0 = 0 from rfl] at hzero
  omega

theorem exists_place (h : d.isNan = false) : ∃ p, d.place? = some p := by
  cases d with
  | nan => cases h
  | number s r => exact ⟨_, rfl⟩

theorem isNan_of_place (h : d.place? = some p) : d.isNan = false := by
  cases d with
  | nan => cases h
  | number s r => rfl

theorem natAbs_place (h : d.place? = some p) : p.natAbs ≤ infinityRank := by
  cases d with
  | nan => cases h
  | number s r =>
    have hr := r.isLt
    simp only [place?, Option.some.injEq] at h
    split at h <;> omega

theorem signedUnits_of_place (h : d.place? = some p) : d.signedUnits = unitsAt p := by
  cases d with
  | nan => cases h
  | number s r =>
    simp only [place?, Option.some.injEq] at h
    subst h
    cases s with
    | true =>
      by_cases hr : r.val = 0
      · simp [signedUnits, unitsAt, hr, units]
      · rw [signedUnits, if_pos rfl, unitsAt, if_pos rfl, if_pos (by omega), Int.natAbs_neg,
          Int.natAbs_natCast]
    | false =>
      rw [signedUnits, if_neg Bool.false_ne_true, unitsAt, if_neg Bool.false_ne_true,
        if_neg (by omega), Int.natAbs_natCast]

/-- At or above zero the place is the rank. -/
theorem signedUnits_of_nonneg (h : d.place? = some p) (hp : 0 ≤ p) :
    d.signedUnits = units p.natAbs := by
  rw [signedUnits_of_place h, unitsAt, if_neg (by omega)]

theorem place?_neg (d : Double) : d.neg.place? = d.place?.map (- ·) := by
  cases d with
  | nan => rfl
  | number s r => cases s <;> simp [neg, place?]

theorem isFinite_iff_place (h : d.place? = some p) :
    d.isFinite = true ↔ p.natAbs < infinityRank := by
  have hbound := natAbs_place h
  cases d with
  | nan => cases h
  | number s r =>
    have hp : p.natAbs = r.val := by
      simp only [place?, Option.some.injEq] at h
      split at h <;> omega
    simp only [isFinite, bne_iff_ne, hp] at hbound ⊢
    omega

theorem le_iff (hd : d.place? = some p) (he : e.place? = some q) : d.le e = true ↔ p ≤ q := by
  rw [le, hd, he]
  exact decide_eq_true_iff

theorem lt_iff (hd : d.place? = some p) (he : e.place? = some q) : d.lt e = true ↔ p < q := by
  rw [lt, hd, he]
  exact decide_eq_true_iff

theorem eq_iff (hd : d.place? = some p) (he : e.place? = some q) : d.eq e = true ↔ p = q := by
  rw [eq, hd, he]
  exact beq_iff_eq

/-- What is in an order has a place. -/
theorem exists_places (h : d.le e = true) :
    ∃ p q, d.place? = some p ∧ e.place? = some q ∧ p ≤ q := by
  cases hd : d.place? with
  | none =>
    rw [le, hd] at h
    cases h
  | some p =>
    cases he : e.place? with
    | none =>
      rw [le, hd, he] at h
      cases h
    | some q => exact ⟨p, q, rfl, rfl, (le_iff hd he).mp h⟩

theorem lt_iff_not_le (hd : d.isNan = false) (he : e.isNan = false) :
    d.lt e = true ↔ ¬ e.le d = true := by
  obtain ⟨p, hp⟩ := exists_place hd
  obtain ⟨q, hq⟩ := exists_place he
  rw [lt_iff hp hq, le_iff hq hp]
  omega

theorem le_of_lt (h : d.lt e = true) : d.le e = true := by
  unfold lt at h
  split at h
  · next p q hp hq =>
    rw [le_iff hp hq]
    exact Int.le_of_lt (of_decide_eq_true h)
  · cases h

theorem lt_of_lt_of_le (h : d.lt e = true) (hef : e.le f = true) : d.lt f = true := by
  obtain ⟨p, q, hp, hq, -⟩ := exists_places (le_of_lt h)
  obtain ⟨q', r, hq', hr, hqr⟩ := exists_places hef
  obtain rfl : q = q' := Option.some.inj (hq.symm.trans hq')
  rw [lt_iff hp hq] at h
  rw [lt_iff hp hr]
  omega

theorem lt_of_le_of_lt (h : d.le e = true) (hef : e.lt f = true) : d.lt f = true := by
  obtain ⟨p, q, hp, hq, hpq⟩ := exists_places h
  obtain ⟨q', r, hq', hr, -⟩ := exists_places (le_of_lt hef)
  obtain rfl : q = q' := Option.some.inj (hq.symm.trans hq')
  rw [lt_iff hq hr] at hef
  rw [lt_iff hp hr]
  omega

theorem place?_zero : zero.place? = some 0 := rfl

theorem isNan_of_isFinite (h : d.isFinite = true) : d.isNan = false := by
  cases d with
  | nan => cases h
  | number => rfl

theorem isInfinite_of_isFinite (h : d.isFinite = true) : d.isInfinite = false := by
  cases d with
  | nan => cases h
  | number s r => simpa [isFinite, isInfinite] using h

/-- The sign of a double is that of its value, where that is not zero. -/
theorem sign_signedUnits (d : Double) :
    if d.isNegative then d.signedUnits ≤ 0 else 0 ≤ d.signedUnits := by
  cases d with
  | nan => exact Int.le_refl 0
  | number s r => cases s <;> simp [isNegative, signedUnits]

theorem sign_mul (d : Double) {k : Int} (hk : 0 ≤ k) :
    if d.isNegative then d.signedUnits * k ≤ 0 else 0 ≤ d.signedUnits * k := by
  have hsign := sign_signedUnits d
  cases hneg : d.isNegative with
  | true =>
    rw [hneg] at hsign
    exact Int.mul_nonpos_of_nonpos_of_nonneg hsign hk
  | false =>
    rw [hneg] at hsign
    exact Int.mul_nonneg hsign hk

theorem isNegative_of_pos (h : 0 < d.signedUnits) : d.isNegative = false := by
  have hsign := sign_signedUnits d
  cases hneg : d.isNegative with
  | true =>
    rw [hneg] at hsign
    exact absurd h (Int.not_lt.mpr hsign)
  | false => rfl

end Place

/-! ## Operations at their places -/

section Operations

variable {a a' b b' : Double}

theorem place?_sub (ha : a.isFinite = true) (hb : b.isFinite = true) :
    (a.sub b).place? = some (placeOfRatio (a.signedUnits - b.signedUnits) 1) := by
  unfold sub
  rw [isNan_of_isFinite ha, isNan_of_isFinite hb, isInfinite_of_isFinite ha,
    isInfinite_of_isFinite hb]
  simp only [Bool.or_self, Bool.false_eq_true, ↓reduceIte]
  split
  · next heq =>
    rw [heq, placeOfRatio_zero]
    cases a.isNegative && !b.isNegative <;> rfl
  · refine place?_ofRatio ?_
    split
    · next hneg => exact Int.le_of_lt (of_decide_eq_true hneg)
    · next hneg => exact Int.not_lt.mp (mt decide_eq_true hneg)

theorem place?_div (ha : a.isFinite = true) (hb : b.isFinite = true) (hpos : 0 < b.signedUnits) :
    (a.div b).place? = some (placeOfRatio (a.signedUnits * unitsPerOne) b.signedUnits.natAbs) := by
  have hmagnitude : (a.signedUnits * unitsPerOne).natAbs = a.signedUnits.natAbs * unitsPerOne := by
    rw [Int.natAbs_mul, Int.natAbs_natCast]
  unfold div
  rw [isNan_of_isFinite ha, isNan_of_isFinite hb, isInfinite_of_isFinite ha,
    isInfinite_of_isFinite hb, isNegative_of_pos hpos]
  simp only [Bool.or_self, Bool.false_eq_true, ↓reduceIte, Bool.bne_false]
  rw [if_neg (by omega), ← hmagnitude]
  exact place?_ofRatio (sign_mul a (by omega))

theorem unitsPerOne_pos : 0 < unitsPerOne := by decide +kernel

/-- The product with what is not less than one. An infinite factor counts as the value that would
come next. -/
theorem place?_mul (ha : a.isNan = false) (hb : b.isFinite = true)
    (hone : (unitsPerOne : Int) ≤ b.signedUnits) :
    (a.mul b).place? = some (placeOfRatio (a.signedUnits * b.signedUnits) unitsPerOne) := by
  have hleast := unitsPerOne_pos
  have hpos : 0 < b.signedUnits := by omega
  have hproduct := sign_mul a (Int.le_of_lt hpos)
  have hmagnitude : (a.signedUnits * b.signedUnits).natAbs =
      a.signedUnits.natAbs * b.signedUnits.natAbs := Int.natAbs_mul ..
  unfold mul
  rw [ha, isNan_of_isFinite hb, isInfinite_of_isFinite hb, isNegative_of_pos hpos]
  simp only [Bool.or_self, Bool.false_eq_true, ↓reduceIte, Bool.bne_false]
  split
  · next hinfinite =>
    -- an infinite double times one or more is past the greatest one
    rw [if_neg (by omega)]
    have hunits : a.signedUnits.natAbs = units infinityRank := by
      cases a with
      | nan => cases ha
      | number s r =>
        have hr : r.val = infinityRank := by simpa [isInfinite] using hinfinite
        rw [signedUnits, hr]
        split
        · rw [Int.natAbs_neg, Int.natAbs_natCast]
        · rw [Int.natAbs_natCast]
    have hrank : rankOfRatio (a.signedUnits * b.signedUnits).natAbs unitsPerOne = infinityRank := by
      refine Nat.le_antisymm (rankOfRatio_le_infinity ..)
        (le_rankOfRatio (Nat.le_refl _) hleast ?_)
      rw [hmagnitude, hunits]
      exact Nat.mul_le_mul_left _ (by omega)
    rw [← place?_ofRatio hproduct, ofRatio, hrank]
    rfl
  · rw [← hmagnitude]
    exact place?_ofRatio hproduct

/-! ## Operations and order -/

theorem signedUnits_mono (h : a.le b = true) : a.signedUnits ≤ b.signedUnits := by
  obtain ⟨p, q, hp, hq, hpq⟩ := exists_places h
  rw [signedUnits_of_place hp, signedUnits_of_place hq]
  exact (unitsAt_le_iff (natAbs_place hp) (natAbs_place hq)).mpr hpq

theorem signedUnits_lt (h : a.lt b = true) : a.signedUnits < b.signedUnits := by
  obtain ⟨p, q, hp, hq, -⟩ := exists_places (le_of_lt h)
  rw [signedUnits_of_place hp, signedUnits_of_place hq]
  exact unitsAt_lt (natAbs_place hp) (natAbs_place hq) ((lt_iff hp hq).mp h)

theorem signedUnits_pos_iff (ha : a.isNan = false) : 0 < a.signedUnits ↔ zero.lt a = true := by
  obtain ⟨p, hp⟩ := exists_place ha
  rw [signedUnits_of_place hp, lt_iff place?_zero hp, unitsAt_pos_iff (natAbs_place hp)]

theorem sub_le_sub (ha : a.isFinite = true) (ha' : a'.isFinite = true) (hb : b.isFinite = true)
    (h : a.le a' = true) : (a.sub b).le (a'.sub b) = true := by
  have hunits := signedUnits_mono h
  rw [le_iff (place?_sub ha hb) (place?_sub ha' hb)]
  exact placeOfRatio_mono (by omega)

theorem div_le_div (ha : a.isFinite = true) (ha' : a'.isFinite = true) (hb : b.isFinite = true)
    (hpos : 0 < b.signedUnits) (h : a.le a' = true) : (a.div b).le (a'.div b) = true := by
  rw [le_iff (place?_div ha hb hpos) (place?_div ha' hb hpos)]
  exact placeOfRatio_mono (Int.mul_le_mul_of_nonneg_right (signedUnits_mono h) (by omega))

theorem div_le_div_left (ha : a.isFinite = true) (hzero : 0 ≤ a.signedUnits)
    (hb : b.isFinite = true) (hb' : b'.isFinite = true) (hpos : 0 < b.signedUnits)
    (h : b.le b' = true) : (a.div b').le (a.div b) = true := by
  have hunits := signedUnits_mono h
  rw [le_iff (place?_div ha hb' (by omega)) (place?_div ha hb hpos)]
  exact placeOfRatio_anti (Int.mul_nonneg hzero (by omega)) (by omega) (by omega)

theorem mul_le_mul (hb : b.isFinite = true) (hone : (unitsPerOne : Int) ≤ b.signedUnits)
    (h : a.le a' = true) : (a.mul b).le (a'.mul b) = true := by
  obtain ⟨p, q, hp, hq, -⟩ := exists_places h
  rw [le_iff (place?_mul (isNan_of_place hp) hb hone) (place?_mul (isNan_of_place hq) hb hone)]
  exact placeOfRatio_mono (Int.mul_le_mul_of_nonneg_right (signedUnits_mono h) (by omega))

/-! ## Operations and signs -/

theorem isNan_neg (a : Double) : a.neg.isNan = a.isNan := by cases a <;> rfl

theorem isInfinite_neg (a : Double) : a.neg.isInfinite = a.isInfinite := by cases a <;> rfl

theorem signedUnits_neg (a : Double) : a.neg.signedUnits = -a.signedUnits := by
  cases a with
  | nan => rfl
  | number s r => cases s <;> simp [neg, signedUnits]

theorem neg_ofRatio (s : Bool) (n d : Nat) : (ofRatio s n d).neg = ofRatio (!s) n d := rfl

/-- The difference the other way round, unless there is none. -/
theorem neg_sub (ha : a.isFinite = true) (hb : b.isFinite = true)
    (h : a.signedUnits ≠ b.signedUnits) : (a.sub b).neg = b.sub a := by
  have hsign : (!decide (a.signedUnits - b.signedUnits < 0)) =
      decide (b.signedUnits - a.signedUnits < 0) := by
    rw [← decide_not]
    exact decide_eq_decide.mpr (by omega)
  unfold sub
  rw [isNan_of_isFinite ha, isNan_of_isFinite hb, isInfinite_of_isFinite ha,
    isInfinite_of_isFinite hb]
  simp only [Bool.or_self, Bool.false_eq_true, ↓reduceIte]
  rw [if_neg (by omega), if_neg (by omega), neg_ofRatio, hsign,
    show (a.signedUnits - b.signedUnits).natAbs = (b.signedUnits - a.signedUnits).natAbs by omega]

/-- The sign of a product or a quotient changes with that of its first operand. -/
theorem sign_neg (s : Bool) (r : Fin (infinityRank + 1)) (b : Double) :
    ((number s r).neg.isNegative != b.isNegative) =
      !((number s r).isNegative != b.isNegative) := by
  cases s <;> cases b.isNegative <;> rfl

theorem neg_div (a b : Double) : a.neg.div b = (a.div b).neg := by
  cases a with
  | nan => rfl
  | number s r =>
    simp only [div, isNan_neg, isInfinite_neg, signedUnits_neg, Int.natAbs_neg, Int.neg_eq_zero,
      sign_neg]
    repeat' split
    all_goals rfl

theorem neg_mul (a b : Double) : a.neg.mul b = (a.mul b).neg := by
  cases a with
  | nan => rfl
  | number s r =>
    simp only [mul, isNan_neg, isInfinite_neg, signedUnits_neg, Int.natAbs_neg, Int.neg_eq_zero,
      sign_neg]
    repeat' split
    all_goals rfl

end Operations

end ProofLedger.Double
