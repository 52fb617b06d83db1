import ProofLedger.Proofs.Comparison.Change
import ProofLedger.Proofs.Outcome
import ProofLedger.Proofs.Record.RoundTrip

/-!
# Verdicts and the order of durations

For records with equal hashes the verdict comes from the change of the duration alone. Under a
positive threshold a change is an improvement, a regression or neither (`classify_cases`), and all
the laws here follow from that and from the order of the changes: longer candidates get no better
verdicts, greater thresholds decide less, and an improvement is a regression when it is undone.
`compare_ordered` puts the laws together.
-/

namespace ProofLedger

/-! ## Verdicts on a percentage -/

/-- How slow a candidate is by a verdict on the durations; a changed hash says nothing of it. -/
def Verdict.slowness? : Verdict → Option Nat
  | .improved => some 0
  | .unchanged => some 1
  | .regressed => some 2
  | .hashMismatch => none

/-- The first verdict is on the durations and no worse than the second, which is so too. -/
def Verdict.NoSlower (v w : Verdict) : Prop :=
  ∃ m n, v.slowness? = some m ∧ w.slowness? = some n ∧ m ≤ n

section Percent

variable {t u : Quantity} {d e : Double}

/-- What is zero or less is not past any positive number. -/
theorem not_le_of_nonpos {p : Int} (ht : Quantity.zero.lt t = true) (hd : d.place? = some p)
    (hp : p ≤ 0) : ¬ t.le (.double d) = true := by
  intro hle
  obtain ⟨hzero, hsome⟩ := Quantity.isSome_of_lt ht
  have hdouble : (Quantity.double d).le (.double .zero) = true := by
    rw [Quantity.le_double, Double.le_iff hd Double.place?_zero]
    exact hp
  have hwhole : (Quantity.double .zero).le .zero = true := by decide +kernel
  exact (Quantity.lt_iff_not_le hzero hsome).mp ht
    (Quantity.le_trans hle (Quantity.le_trans hdouble hwhole))

/-- What a verdict on a percentage says, and that the threshold is on one side of it at most. -/
theorem classify_cases (ht : Quantity.zero.lt t = true) (hd : d.isNan = false) :
    (classify (.double d) t = .improved ∧ (Quantity.double d).le t.neg = true ∧
        ¬ t.le (.double d) = true) ∨
      (classify (.double d) t = .unchanged ∧ ¬ (Quantity.double d).le t.neg = true ∧
        ¬ t.le (.double d) = true) ∨
      (classify (.double d) t = .regressed ∧ ¬ (Quantity.double d).le t.neg = true ∧
        t.le (.double d) = true) := by
  cases d with
  | nan => cases hd
  | number s r =>
    have habs : (Quantity.double (.number s r)).abs.lt t = true ↔
        ¬ t.le (.double (.number false r)) = true :=
      Quantity.lt_iff_not_le (Quantity.isSome_level?_double rfl) (Quantity.isSome_of_lt ht).2
    have hsign : ¬ t.le (.double (.number true r)) = true :=
      not_le_of_nonpos (p := -r.val) ht rfl (by omega)
    have hneg : (Quantity.double (.number s r)).le t.neg = t.le (.double (.number (!s) r)) :=
      Quantity.le_neg_comm ..
    rw [hneg]
    unfold classify
    by_cases hbig : t.le (.double (.number false r)) = true
    · rw [if_neg (fun h => habs.mp h hbig), hneg]
      cases s with
      | true => exact .inl ⟨if_pos hbig, hbig, hsign⟩
      | false => exact .inr (.inr ⟨if_neg hsign, hsign, hbig⟩)
    · rw [if_pos (habs.mpr hbig)]
      cases s with
      | true => exact .inr (.inl ⟨rfl, hbig, hsign⟩)
      | false => exact .inr (.inl ⟨rfl, hsign, hbig⟩)

theorem classify_eq_improved_iff (ht : Quantity.zero.lt t = true) (hd : d.isNan = false) :
    classify (.double d) t = .improved ↔ (Quantity.double d).le t.neg = true := by
  rcases classify_cases ht hd with ⟨hc, himproved, -⟩ | ⟨hc, himproved, -⟩ | ⟨hc, himproved, -⟩
  · exact iff_of_true hc himproved
  · exact iff_of_false (by rw [hc]; decide) himproved
  · exact iff_of_false (by rw [hc]; decide) himproved

theorem classify_eq_regressed_iff (ht : Quantity.zero.lt t = true) (hd : d.isNan = false) :
    classify (.double d) t = .regressed ↔ t.le (.double d) = true := by
  rcases classify_cases ht hd with ⟨hc, -, hregressed⟩ | ⟨hc, -, hregressed⟩ | ⟨hc, -, hregressed⟩
  · exact iff_of_false (by rw [hc]; decide) hregressed
  · exact iff_of_false (by rw [hc]; decide) hregressed
  · exact iff_of_true hc hregressed

theorem slowness?_classify (ht : Quantity.zero.lt t = true) (hd : d.isNan = false) :
    (classify (.double d) t).slowness? = some (if (Quantity.double d).le t.neg then 0
      else if t.le (.double d) then 2 else 1) := by
  rcases classify_cases ht hd with ⟨hc, hi, hr⟩ | ⟨hc, hi, hr⟩ | ⟨hc, hi, hr⟩
  · rw [hc, if_pos hi]
    rfl
  · rw [hc, if_neg hi, if_neg hr]
    rfl
  · rw [hc, if_neg hi, if_pos hr]
    rfl

/-- A greater change gets no better verdict. -/
theorem classify_mono (ht : Quantity.zero.lt t = true) (h : d.le e = true) :
    (classify (.double d) t).NoSlower (classify (.double e) t) := by
  obtain ⟨p, q, hp, hq, -⟩ := Double.exists_places h
  have hle : (Quantity.double d).le (.double e) = true := (Quantity.le_double d e).trans h
  refine ⟨_, _, slowness?_classify ht (Double.isNan_of_place hp),
    slowness?_classify ht (Double.isNan_of_place hq), ?_⟩
  by_cases hi : (Quantity.double d).le t.neg = true
  · rw [if_pos hi]
    exact Nat.zero_le _
  · rw [if_neg hi, if_neg fun he => hi (Quantity.le_trans hle he)]
    by_cases hr : t.le (.double d) = true
    · refine Nat.le_of_eq ?_
      rw [if_pos hr, if_pos (Quantity.le_trans hr hle)]
    · rw [if_neg hr]
      split <;> decide

/-- No change is within every positive threshold. -/
theorem classify_zero (ht : Quantity.zero.lt t = true) (hd : d.place? = some 0) :
    classify (.double d) t = .unchanged := by
  have hneg : d.neg.place? = some 0 := by rw [Double.place?_neg, hd]; rfl
  have hi : ¬ (Quantity.double d).le t.neg = true := by
    rw [Quantity.le_neg_comm]
    exact not_le_of_nonpos ht hneg (Int.le_refl 0)
  have hr : ¬ t.le (.double d) = true := not_le_of_nonpos ht hd (Int.le_refl 0)
  rcases classify_cases ht (Double.isNan_of_place hd) with ⟨-, h, -⟩ | ⟨hc, -⟩ | ⟨-, -, h⟩
  · exact absurd h hi
  · exact hc
  · exact absurd h hr

/-- A greater threshold takes a change for one in the same direction, or for none. -/
theorem classify_raised (ht : Quantity.zero.lt t = true) (hu : Quantity.zero.lt u = true)
    (htu : t.le u = true) (hd : d.isNan = false)
    (hv : classify (.double d) u ≠ .unchanged) :
    classify (.double d) u = classify (.double d) t := by
  rcases classify_cases hu hd with ⟨hc, h, -⟩ | ⟨hc, -⟩ | ⟨hc, -, h⟩
  · rw [hc, eq_comm, classify_eq_improved_iff ht hd, Quantity.le_neg_comm]
    rw [Quantity.le_neg_comm] at h
    exact Quantity.le_trans htu h
  · exact absurd hc hv
  · rw [hc, eq_comm, classify_eq_regressed_iff ht hd]
    exact Quantity.le_trans htu h

end Percent

/-! ## Verdicts on durations -/

/-- The verdict on two durations, when the hashes are equal. -/
def durationVerdict (x y : Double) (t : Quantity) : Verdict :=
  verdictOf true (relativeChange x (y.sub x)) t

section Durations

variable {x y y' : Duration} {t u : Quantity}

theorem durationVerdict_of_pos (hzero : Double.zero.lt x.val = true) (y : Duration) (t : Quantity) :
    durationVerdict x.val y.val t = classify (.double (percentChange x.val y.val)) t := by
  rw [durationVerdict, relativeChange_of_pos hzero]
  rfl

/-- From zero there is no percentage, unless it stays at zero. -/
theorem durationVerdict_of_zero (ht : Quantity.zero.lt t = true)
    (hzero : Double.zero.lt x.val = false) (hx : x.val.isFinite = true)
    (hy : y.val.isFinite = true) :
    durationVerdict x.val y.val t = if Double.zero.lt y.val then .regressed else .unchanged := by
  obtain ⟨q, hq, hq0⟩ := y.exists_place
  have hbound := Double.natAbs_place hq
  have hxunits : x.val.signedUnits = 0 := by
    have hpos := Double.signedUnits_pos_iff x.isNan_val
    rw [hzero] at hpos
    have hnonneg := x.signedUnits_nonneg
    simp only [Bool.false_eq_true, iff_false] at hpos
    omega
  have hdelta : (y.val.sub x.val).place? = some q := by
    have hunits : y.val.signedUnits - x.val.signedUnits = (Double.units q.natAbs : Int) := by
      rw [hxunits, Int.sub_zero, Double.signedUnits_of_nonneg hq hq0]
    rw [Double.place?_sub hy hx, hunits, Double.placeOfRatio_nonneg (by omega),
      Int.natAbs_natCast, Double.rankOfRatio_units hbound, Option.some.injEq]
    omega
  have hchange : relativeChange x.val (y.val.sub x.val) =
      if (y.val.sub x.val).eq .zero then some .zero else none := by
    rw [relativeChange, hzero, if_neg Bool.false_ne_true]
  rw [durationVerdict, hchange]
  by_cases hpos : q = 0
  · have heq : (y.val.sub x.val).eq .zero = true :=
      (Double.eq_iff hdelta Double.place?_zero).mpr hpos
    have hlt : ¬ Double.zero.lt y.val = true := by
      rw [Double.lt_iff Double.place?_zero hq]
      omega
    rw [if_pos heq, if_neg hlt]
    exact classify_zero ht Double.place?_zero
  · have heq : ¬ (y.val.sub x.val).eq .zero = true := by
      rwa [Double.eq_iff hdelta Double.place?_zero]
    have hlt : Double.zero.lt y.val = true := by
      rw [Double.lt_iff Double.place?_zero hq]
      omega
    rw [if_neg heq, if_pos hlt]
    rfl

theorem durationVerdict_self (ht : Quantity.zero.lt t = true) (hx : x.val.isFinite = true) :
    durationVerdict x.val x.val t = .unchanged := by
  rw [durationVerdict, relativeChange_self hx]
  exact classify_zero ht Double.place?_zero

/-- A longer candidate gets no better verdict. -/
theorem durationVerdict_mono (ht : Quantity.zero.lt t = true) (hx : x.val.isFinite = true)
    (hy : y.val.isFinite = true) (hy' : y'.val.isFinite = true) (h : y.val.le y'.val = true) :
    (durationVerdict x.val y.val t).NoSlower (durationVerdict x.val y'.val t) := by
  cases hzero : Double.zero.lt x.val with
  | true =>
    rw [durationVerdict_of_pos hzero, durationVerdict_of_pos hzero]
    exact classify_mono ht (percentChange_mono hzero hx hy hy' h)
  | false =>
    rw [durationVerdict_of_zero ht hzero hx hy, durationVerdict_of_zero ht hzero hx hy']
    by_cases hpos : Double.zero.lt y.val = true
    · rw [if_pos hpos, if_pos (Double.lt_of_lt_of_le hpos h)]
      exact ⟨2, 2, rfl, rfl, Nat.le_refl 2⟩
    · rw [if_neg hpos]
      split
      · exact ⟨1, 2, rfl, rfl, by decide⟩
      · exact ⟨1, 1, rfl, rfl, Nat.le_refl 1⟩

theorem lt_of_improved (ht : Quantity.zero.lt t = true) (hx : x.val.isFinite = true)
    (hy : y.val.isFinite = true) (h : durationVerdict x.val y.val t = .improved) :
    y.val.lt x.val = true := by
  rw [Double.lt_iff_not_le y.isNan_val x.isNan_val]
  intro hle
  obtain ⟨m, n, hm, hn, hmn⟩ := durationVerdict_mono ht hx hx hy hle
  rw [durationVerdict_self ht hx] at hm
  rw [h] at hn
  cases hm
  cases hn
  omega

theorem lt_of_regressed (ht : Quantity.zero.lt t = true) (hx : x.val.isFinite = true)
    (hy : y.val.isFinite = true) (h : durationVerdict x.val y.val t = .regressed) :
    x.val.lt y.val = true := by
  rw [Double.lt_iff_not_le x.isNan_val y.isNan_val]
  intro hle
  obtain ⟨m, n, hm, hn, hmn⟩ := durationVerdict_mono ht hx hy hx hle
  rw [durationVerdict_self ht hx] at hn
  rw [h] at hm
  cases hm
  cases hn
  omega

/-- What a greater threshold still takes for a change is the same change for the lesser one. -/
theorem durationVerdict_raised (ht : Quantity.zero.lt t = true) (hu : Quantity.zero.lt u = true)
    (htu : t.le u = true) (hx : x.val.isFinite = true) (hy : y.val.isFinite = true)
    (hv : durationVerdict x.val y.val u ≠ .unchanged) :
    durationVerdict x.val y.val u = durationVerdict x.val y.val t := by
  cases hzero : Double.zero.lt x.val with
  | true =>
    rw [durationVerdict_of_pos hzero] at hv ⊢
    rw [durationVerdict_of_pos hzero]
    exact classify_raised ht hu htu (isNan_percentChange hzero hx hy) hv
  | false => rw [durationVerdict_of_zero ht hzero hx hy, durationVerdict_of_zero hu hzero hx hy]

/-- An improvement is a regression when it is undone, also where it went down to zero. -/
theorem durationVerdict_swap (ht : Quantity.zero.lt t = true) (hx : x.val.isFinite = true)
    (hy : y.val.isFinite = true) (h : durationVerdict x.val y.val t = .improved) :
    durationVerdict y.val x.val t = .regressed := by
  have hlt := lt_of_improved ht hx hy h
  have hxzero : Double.zero.lt x.val = true := Double.lt_of_le_of_lt y.property hlt
  cases hyzero : Double.zero.lt y.val with
  | false => rw [durationVerdict_of_zero ht hyzero hy hx, if_pos hxzero]
  | true =>
    rw [durationVerdict_of_pos hxzero,
      classify_eq_improved_iff ht (isNan_percentChange hxzero hx hy), Quantity.le_neg_comm] at h
    rw [durationVerdict_of_pos hyzero,
      classify_eq_regressed_iff ht (isNan_percentChange hyzero hy hx)]
    refine Quantity.le_trans h ?_
    rw [Quantity.neg, Quantity.le_double]
    exact percentChange_swap hx hy hyzero hlt

end Durations

/-! ## Comparisons -/

/-- A threshold is accepted when it is not zero or less and no whole number past every double. -/
theorem Threshold.check_eq_ok_iff (t : Threshold) :
    (∃ q, t.check = .ok q) ↔
      t.isNotPositive = false ∧ ∀ n, t.value = .whole n → (Double.ofInt n).isFinite = true := by
  unfold Threshold.check
  cases hpositive : t.isNotPositive with
  | true => exact iff_of_false (by rintro ⟨q, hq⟩; cases hq) (fun h => nomatch h.1)
  | false =>
    rw [if_neg Bool.false_ne_true, and_iff_right rfl]
    cases t.value with
    | double d => exact iff_of_true ⟨.double d, rfl⟩ nofun
    | whole n =>
      dsimp only
      cases hfinite : (Double.ofInt n).isFinite with
      | true =>
        refine iff_of_true ⟨.whole n, if_pos rfl⟩ fun m hm => ?_
        cases hm
        exact hfinite
      | false =>
        refine iff_of_false ?_ fun h => ?_
        · rintro ⟨q, hq⟩
          cases hq
        · cases hfinite.symm.trans (h n rfl)

theorem Threshold.value_of_check {t : Threshold} {q : Quantity} (h : t.check = .ok q) :
    q = t.value := by
  unfold Threshold.check at h
  split at h
  · cases h
  · split at h
    · next n hn =>
      split at h
      · cases h
        exact hn.symm
      · cases h
    · cases h
      rfl

section Compare

variable {b c : ProofRecord} {t : Threshold} {r : ComparisonReport}

theorem exists_compare_iff (b c : ProofRecord) (t : Threshold) :
    (∃ r, compare b c t = .ok r) ↔ ∃ q, t.check = .ok q := by
  constructor
  · rintro ⟨r, hr⟩
    obtain ⟨q, hq, -⟩ := map_eq_ok hr
    exact ⟨q, hq⟩
  · rintro ⟨q, hq⟩
    exact ⟨_, by rw [compare, hq]; rfl⟩

theorem eq_of_compare (h : compare b c t = .ok r) : r = .of b c t.value := by
  obtain ⟨q, hq, rfl⟩ := map_eq_ok h
  rw [Threshold.value_of_check hq]

/-- Between equal hashes the durations decide. -/
theorem verdict_of_compare (h : compare b c t = .ok r) (hash : b.proofHash = c.proofHash) :
    r.verdict = durationVerdict b.duration.val c.duration.val t.value := by
  obtain rfl := eq_of_compare h
  simp only [ComparisonReport.of, hash, beq_self_eq_true]
  rfl

theorem hashMismatch_of_compare (h : compare b c t = .ok r) (hash : b.proofHash ≠ c.proofHash) :
    r.verdict = .hashMismatch := by
  obtain rfl := eq_of_compare h
  have hne : (b.proofHash.val == c.proofHash.val) = false :=
    beq_eq_false_iff_ne.mpr fun heq => hash (Subtype.ext heq)
  simp only [ComparisonReport.of, hne]
  rfl

end Compare

/-- The laws of a comparison of a baseline and a candidate with the same hash. -/
structure Ordered (b c : ProofRecord) (t : Threshold) (v : Verdict) : Prop where
  /-- An improvement takes less time, -/
  faster : v = .improved → c.duration.val.lt b.duration.val = true
  /-- and a regression takes more. -/
  slower : v = .regressed → b.duration.val.lt c.duration.val = true
  /-- A longer candidate gets no better verdict. -/
  monotone : ∀ c' report', b.proofHash = c'.proofHash → c'.duration.val.isFinite = true →
    c.duration.val.le c'.duration.val = true → compare b c' t = .ok report' →
    v.NoSlower report'.verdict
  /-- What was unchanged stays so under a greater threshold, and what was a change does not become
  one in the other direction. -/
  raised : ∀ t' report', t.value.le t'.value = true → compare b c t' = .ok report' →
    report'.verdict = .unchanged ∨ report'.verdict = v
  /-- An improvement is a regression the other way round. -/
  reversed : v = .improved → ∃ report', compare c b t = .ok report' ∧ report'.verdict = .regressed

theorem ordered_of_compare {b c : ProofRecord} {t : Threshold} {r : ComparisonReport}
    (h : compare b c t = .ok r) (hash : b.proofHash = c.proofHash)
    (hb : b.duration.val.isFinite = true) (hc : c.duration.val.isFinite = true)
    (ht : Quantity.zero.lt t.value = true) : Ordered b c t r.verdict := by
  rw [verdict_of_compare h hash]
  refine ⟨lt_of_improved ht hb hc, lt_of_regressed ht hb hc, ?monotone, ?raised, ?reversed⟩
  case monotone =>
    intro c' report' hash' hc' hle h'
    rw [verdict_of_compare h' hash']
    exact durationVerdict_mono ht hb hc hc' hle
  case raised =>
    intro t' report' hle h'
    rw [verdict_of_compare h' hash]
    by_cases hunchanged : durationVerdict b.duration.val c.duration.val t'.value = .unchanged
    · exact .inl hunchanged
    · exact .inr (durationVerdict_raised ht (Quantity.lt_of_lt_of_le ht hle) hle hb hc hunchanged)
  case reversed =>
    intro himproved
    obtain ⟨report', h'⟩ := (exists_compare_iff c b t).mpr ((exists_compare_iff b c t).mp ⟨r, h⟩)
    refine ⟨report', h', ?_⟩
    rw [verdict_of_compare h' hash.symm]
    exact durationVerdict_swap ht hb hc himproved

/-- Comparisons are in the order of the durations: a comparison succeeds under each threshold that
is accepted, a changed hash decides alone, and for finite durations the verdicts on records with
one hash obey the laws of order under every positive threshold. -/
theorem compare_ordered (b c : ProofRecord) (t : Threshold) :
    ((∃ r, compare b c t = .ok r) ↔
      t.isNotPositive = false ∧ ∀ n, t.value = .whole n → (Double.ofInt n).isFinite = true) ∧
    ∀ r, compare b c t = .ok r →
      (b.proofHash ≠ c.proofHash → r.verdict = .hashMismatch) ∧
      (b.proofHash = c.proofHash → b.duration.val.isFinite = true →
        c.duration.val.isFinite = true → Quantity.zero.lt t.value = true →
        Ordered b c t r.verdict) := by
  refine ⟨(exists_compare_iff b c t).trans t.check_eq_ok_iff, fun r h => ⟨?_, ?_⟩⟩
  · exact hashMismatch_of_compare h
  · exact ordered_of_compare h

/-- Half the time is an improvement, and twice the time a regression. -/
theorem compare_ordered_halved :
    let b := ProofRecord.sample.lasting (.ofNat 8)
    let c := ProofRecord.sample.lasting (.ofNat 4)
    ∃ r, compare b c .default = .ok r ∧ r.verdict = .improved ∧ Ordered b c .default .improved ∧
      ∃ r', compare c b .default = .ok r' ∧ r'.verdict = .regressed := by
  intro b c
  have hlaws := compare_ordered b c .default
  obtain ⟨r, hr⟩ := hlaws.1.mpr ⟨by decide +kernel, nofun⟩
  have himproved : r.verdict = .improved := by
    rw [eq_of_compare hr]
    decide +kernel
  have hordered := (hlaws.2 r hr).2 (ProofRecord.proofHash_lasting ..) (by decide +kernel)
    (by decide +kernel) (by decide +kernel)
  rw [himproved] at hordered
  exact ⟨r, hr, himproved, hordered, hordered.reversed rfl⟩

end ProofLedger
