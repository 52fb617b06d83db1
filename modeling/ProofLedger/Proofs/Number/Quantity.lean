import ProofLedger.Number.Quantity
import ProofLedger.Proofs.Number.Rounding

/-!
# Integers and doubles in one order

The comparison of quantities is an order on those that are numbers: it is transitive
(`Quantity.le_trans`), `lt` is its strict part (`lt_iff_not_le`), it is the order of doubles on
doubles (`le_double`), and signs turn it round (`le_neg_comm`).
-/

namespace ProofLedger

namespace Level

theorem le_trans {a b c : Level} (hab : a.le b = true) (hbc : b.le c = true) : a.le c = true := by
  cases a <;> cases b <;> cases c <;> simp_all [le, lt]
  omega

theorem lt_of_lt_of_le {a b c : Level} (hab : a.lt b = true) (hbc : b.le c = true) :
    a.lt c = true := by
  cases a <;> cases b <;> cases c <;> simp_all [le, lt]
  omega

/-- The level on the other side of zero. -/
def neg : Level → Level
  | .bottom => .top
  | .units n => .units (-n)
  | .top => .bottom

theorem le_neg_comm (a b : Level) : a.le b.neg = b.le a.neg := by
  cases a <;> cases b <;> simp [le, lt, neg]
  omega

end Level

namespace Quantity

variable {a b c : Quantity} {d e : Double}

theorem levels_of_le (h : a.le b = true) :
    ∃ x y, a.level? = some x ∧ b.level? = some y ∧ x.le y = true := by
  unfold le at h
  split at h
  · next x y hx hy => exact ⟨x, y, hx, hy, h⟩
  · cases h

theorem levels_of_lt (h : a.lt b = true) :
    ∃ x y, a.level? = some x ∧ b.level? = some y ∧ x.lt y = true := by
  unfold lt at h
  split at h
  · next x y hx hy => exact ⟨x, y, hx, hy, h⟩
  · cases h

theorem le_trans (hab : a.le b = true) (hbc : b.le c = true) : a.le c = true := by
  obtain ⟨x, y, hx, hy, hxy⟩ := levels_of_le hab
  obtain ⟨y', z, hy', hz, hyz⟩ := levels_of_le hbc
  obtain rfl : y' = y := Option.some.inj (hy'.symm.trans hy)
  rw [le, hx, hz]
  exact Level.le_trans hxy hyz

theorem lt_iff_not_le (ha : a.level?.isSome) (hb : b.level?.isSome) :
    a.lt b = true ↔ ¬ b.le a = true := by
  obtain ⟨x, hx⟩ := Option.isSome_iff_exists.mp ha
  obtain ⟨y, hy⟩ := Option.isSome_iff_exists.mp hb
  rw [lt, le, hx, hy]
  simp [Level.le]

theorem lt_of_lt_of_le (hab : a.lt b = true) (hbc : b.le c = true) : a.lt c = true := by
  obtain ⟨x, y, hx, hy, hxy⟩ := levels_of_lt hab
  obtain ⟨y', z, hy', hz, hyz⟩ := levels_of_le hbc
  obtain rfl : y = y' := Option.some.inj (hy.symm.trans hy')
  rw [lt, hx, hz]
  exact Level.lt_of_lt_of_le hxy hyz

theorem isSome_of_lt (h : a.lt b = true) : a.level?.isSome ∧ b.level?.isSome := by
  obtain ⟨x, y, hx, hy, -⟩ := levels_of_lt h
  rw [hx, hy]
  exact ⟨rfl, rfl⟩

theorem level?_neg (a : Quantity) : a.neg.level? = a.level?.map Level.neg := by
  cases a with
  | whole n => exact congrArg (fun k => some (Level.units k)) (Int.neg_mul ..)
  | double d =>
    cases d with
    | nan => rfl
    | number s r =>
      by_cases hr : r.val = infinityRank
      · cases s <;> simp [neg, level?, Double.neg, Double.isNan, Double.isInfinite,
          Double.isNegative, Level.neg, hr]
      · simp only [neg, level?, Double.isNan_neg, Double.isInfinite_neg, Double.signedUnits_neg]
        simp [Double.isNan, Double.isInfinite, Level.neg, hr]

theorem le_neg_comm (a b : Quantity) : a.le b.neg = b.le a.neg := by
  rw [le, le, level?_neg, level?_neg]
  cases a.level? <;> cases b.level? <;> first | rfl | exact Level.le_neg_comm ..

theorem isSome_level?_double (h : d.isNan = false) : (double d).level?.isSome := by
  rw [level?, h]
  simp only [Bool.false_eq_true, ↓reduceIte]
  split <;> rfl

/-- Where a double lies, by its place. -/
theorem level?_of_place {p : Int} (h : d.place? = some p) : (double d).level? = some
    (if p = -infinityRank then .bottom else if p = infinityRank then .top
      else .units (Double.unitsAt p)) := by
  have hunits := Double.signedUnits_of_place h
  have hinfinity : 0 < infinityRank := by decide
  cases d with
  | nan => cases h
  | number s r =>
    rw [level?, hunits]
    simp only [Double.place?, Option.some.injEq] at h
    simp only [Double.isNan, Double.isInfinite, Double.isNegative, Bool.false_eq_true, ↓reduceIte,
      beq_iff_eq]
    split
    · next hr =>
      have hne : (infinityRank : Int) ≠ -infinityRank := by omega
      cases s <;> simp [← h, hr, hne]
    · rw [if_neg (by split at h <;> omega), if_neg (by split at h <;> omega)]

/-- Doubles are in the order of their places. -/
theorem le_double (d e : Double) : (double d).le (.double e) = d.le e := by
  cases hd : d.place? with
  | none =>
    cases d with
    | nan => rfl
    | number => cases hd
  | some p =>
    cases he : e.place? with
    | none =>
      cases e with
      | nan => rw [le, level?_of_place hd, Double.le, hd, he]; rfl
      | number => cases he
    | some q =>
      have hp := Double.natAbs_place hd
      have hq := Double.natAbs_place he
      have hinfinity : 0 < infinityRank := by decide
      rw [Bool.eq_iff_iff, Double.le_iff hd he, le, level?_of_place hd, level?_of_place he]
      dsimp only
      split
      · next hbottom =>
        refine iff_of_true ?_ (by omega)
        split
        · rfl
        · split <;> rfl
      · split
        · next htop =>
          split
          · exact iff_of_false Bool.false_ne_true (by omega)
          · split
            · exact iff_of_true rfl (by omega)
            · exact iff_of_false Bool.false_ne_true (by omega)
        · split
          · exact iff_of_false Bool.false_ne_true (by omega)
          · split
            · exact iff_of_true rfl (by omega)
            · simp [Level.le, Level.lt, Double.unitsAt_le_iff hp hq]

end Quantity

end ProofLedger
