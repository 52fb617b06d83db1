import ProofLedger.Proofs.Calendar.Reading

/-!
# Texts in the order of time

`fullText_lt_iff`: of two moments in UTC the earlier one has the lesser text. All numbers of such a
text have a fixed width, and texts that start with numbers of one width are in the order of these
numbers first (`padded_append_lt_iff`); so both sides come down to the same comparison of years,
months, days, hours, minutes, seconds and microseconds. That days are in the order of their dates is
`toDay_lt_iff`.

`Moment.Placed` are the moments that have a text at all: those whose instant lies in the calendar as
UTC counts it.
-/

namespace ProofLedger

/-! ## Texts of one width -/

namespace Text

/-- What stands behind texts of one length is looked at when these are the same. -/
theorem append_lt_append_iff {a b s t : Text} (h : a.length = b.length) :
    a ++ s < b ++ t ↔ a < b ∨ a = b ∧ s < t := by
  induction a generalizing b with
  | nil =>
    obtain rfl := List.length_eq_zero_iff.mp h.symm
    simp
  | cons c a ih =>
    cases b with
    | nil => cases h
    | cons d b =>
      have hlength : a.length = b.length := Nat.succ.inj h
      simp only [List.cons_append, List.cons_lt_cons_iff, List.cons.injEq, ih hlength]
      tauto

/-- Digits of one number are in the order of the numbers that they spell. -/
theorem lt_iff_natValue_lt {a b : Text} (ha : ∀ c ∈ a, isDigit c = true)
    (hb : ∀ c ∈ b, isDigit c = true) (h : a.length = b.length) :
    a < b ↔ natValue a < natValue b := by
  induction a generalizing b with
  | nil =>
    obtain rfl := List.length_eq_zero_iff.mp h.symm
    simp
  | cons c a ih =>
    cases b with
    | nil => cases h
    | cons d b =>
      have hlength : a.length = b.length := Nat.succ.inj h
      obtain ⟨hc, ha⟩ := List.forall_mem_cons.mp ha
      obtain ⟨hd, hb⟩ := List.forall_mem_cons.mp hb
      have hvalue : ∀ (x : Nat) (r : Text), natValue (x :: r) =
          (x - 48) * 10 ^ r.length + natValue r := by
        intro x r
        rw [← List.singleton_append, natValue_append]
        simp [natValue]
      have hbelow := natValue_lt ha
      have hbelow' := natValue_lt hb
      rw [List.cons_lt_cons_iff, ih ha hb hlength, hvalue, hvalue, hlength]
      rw [hlength] at hbelow
      simp only [isDigit, Bool.and_eq_true, decide_eq_true_eq] at hc hd
      rcases Nat.lt_trichotomy c d with hcd | rfl | hcd
      · have hstep : (c - 48 + 1) * 10 ^ b.length ≤ (d - 48) * 10 ^ b.length :=
          Nat.mul_le_mul_right _ (by omega)
        rw [Nat.add_mul] at hstep
        omega
      · omega
      · have hstep : (d - 48 + 1) * 10 ^ b.length ≤ (c - 48) * 10 ^ b.length :=
          Nat.mul_le_mul_right _ (by omega)
        rw [Nat.add_mul] at hstep
        omega

section Padded

variable {width m n : Nat} (hwidth : 0 < width) (hm : m < 10 ^ width) (hn : n < 10 ^ width)
include hwidth hm hn

theorem padded_lt_iff : ofNatPadded width m < ofNatPadded width n ↔ m < n := by
  have hlength : (ofNatPadded width m).length = (ofNatPadded width n).length := by
    rw [length_ofNatPadded hwidth hm, length_ofNatPadded hwidth hn]
  rw [lt_iff_natValue_lt (all_isDigit_padded width m) (all_isDigit_padded width n) hlength,
    natValue_ofNatPadded, natValue_ofNatPadded]

/-- Texts that start with numbers of one width are in the order of these first. -/
theorem padded_append_lt_iff {s t : Text} :
    ofNatPadded width m ++ s < ofNatPadded width n ++ t ↔ m < n ∨ m = n ∧ s < t := by
  have hlength : (ofNatPadded width m).length = (ofNatPadded width n).length := by
    rw [length_ofNatPadded hwidth hm, length_ofNatPadded hwidth hn]
  rw [append_lt_append_iff hlength, padded_lt_iff hwidth hm hn]
  exact or_congr_right (and_congr_left' ⟨ofNatPadded_injective, fun h => h ▸ rfl⟩)

end Padded

end Text

/-! ## Days -/

namespace Calendar

/-- A later month starts after the last day of an earlier one; the month behind the last one stands
for the next year. -/
theorem daysBeforeMonth_le (year : Nat) {m n : Nat} (hm : 1 ≤ m) (hmn : m < n) (hn : n ≤ 13) :
    daysBeforeMonth year m + daysInMonth year m ≤ daysBeforeMonth year n := by
  have hlengths : ∀ leap, ∀ n ≤ 13, ∀ m < n, 1 ≤ m →
      ((monthLengths leap).take (m - 1)).foldr (· + ·) 0 +
          ((0 :: monthLengths leap)[m]?).getD 0 ≤
        ((monthLengths leap).take (n - 1)).foldr (· + ·) 0 := by
    decide
  exact hlengths _ n hn m hmn hm

theorem daysBeforeMonth_end {year : Nat} (h : 1 ≤ year) :
    daysBeforeYear year + daysBeforeMonth year 13 = daysBeforeYear (year + 1) := by
  have htake : (monthLengths (isLeap year)).take 12 = monthLengths (isLeap year) := rfl
  rw [daysBeforeMonth, htake, sum_monthLengths, daysBeforeYear_succ h]

namespace Date

/-- Years first, then months, then days. -/
def Before (d e : Date) : Prop :=
  d.year < e.year ∨ d.year = e.year ∧ (d.month < e.month ∨ d.month = e.month ∧ d.day < e.day)

theorem toDay_lt_of_before {d e : Date} (hd : d.Valid) (he : e.Valid) (h : d.Before e) :
    d.toDay < e.toDay := by
  obtain ⟨hyear, -, hmonth, hmonths, hday, hdays⟩ := hd
  obtain ⟨-, -, hmonth', hmonths', hday', -⟩ := he
  rw [toDay, toDay]
  rcases h with h | ⟨h, h' | ⟨h', h''⟩⟩
  · have hend := daysBeforeMonth_le d.year hmonth (by omega : d.month < 13) (Nat.le_refl 13)
    have hnext := daysBeforeMonth_end hyear
    have hlater := daysBeforeYear_le (by omega) (by omega : d.year + 1 ≤ e.year)
    omega
  · have hend := daysBeforeMonth_le d.year hmonth h' (by omega)
    rw [h] at hend hdays ⊢
    omega
  · rw [h, h']
    omega

/-- Days are in the order of their dates. -/
theorem toDay_lt_iff {d e : Date} (hd : d.Valid) (he : e.Valid) :
    d.toDay < e.toDay ↔ d.Before e := by
  refine ⟨fun h => ?_, toDay_lt_of_before hd he⟩
  by_contra hnot
  have hback : d = e ∨ e.Before d := by
    obtain ⟨year, month, day⟩ := d
    obtain ⟨year', month', day'⟩ := e
    simp only [Before, Date.mk.injEq] at hnot ⊢
    omega
  rcases hback with rfl | hback
  · exact Nat.lt_irrefl _ h
  · exact Nat.lt_asymm h (toDay_lt_of_before he hd hback)

end Date

end Calendar

/-! ## Moments -/

namespace Moment

open Calendar

/-- The distance from UTC is known, and the calendar of UTC reaches the moment. -/
structure Placed (m : Moment) : Prop where
  aware : m.isAware = true
  instant_nonneg : 0 ≤ m.instant
  instant_lt : m.instant < endOfTime

/-- UTC shows such a moment. -/
theorem Placed.exists_utc {m : Moment} (h : m.Placed) :
    ∃ u, m.utc? = some u ∧ u.offset = some 0 ∧ (u.wall : Int) = m.instant := by
  have hbounds : 0 ≤ m.instant ∧ m.instant < endOfTime ∧
      ∀ o ∈ (some 0 : Option Int), o.natAbs < daySpan :=
    ⟨h.instant_nonneg, h.instant_lt, by decide⟩
  refine ⟨_, dif_pos hbounds, rfl, Int.toNat_of_nonneg h.instant_nonneg⟩

theorem instant_eq_wall {u : Moment} (hu : u.offset = some 0) : u.instant = u.wall := by
  rw [instant, hu, Option.getD_some, Int.sub_zero]

theorem Placed.of_utc {u : Moment} (hu : u.offset = some 0) : u.Placed := by
  refine ⟨by rw [isAware, hu]; rfl, ?_, ?_⟩
  · rw [instant_eq_wall hu]
    exact Int.natCast_nonneg _
  · rw [instant_eq_wall hu]
    exact Int.ofNat_lt.mpr u.wall_lt

/-- The time of day is in the order of its fields. -/
theorem wall_lt_iff (u v : Moment) : u.wall < v.wall ↔
    u.date.Before v.date ∨ u.date = v.date ∧
      (u.sinceMidnight / second < v.sinceMidnight / second ∨
        u.sinceMidnight / second = v.sinceMidnight / second ∧
          u.wall % second < v.wall % second) := by
  have hday : u.date = v.date ↔ u.wall / daySpan = v.wall / daySpan := by
    refine ⟨fun h => ?_, fun h => ?_⟩
    · rw [← Date.toDay_ofDay (u.wall / daySpan), ← Date.toDay_ofDay (v.wall / daySpan)]
      exact congrArg Date.toDay h
    · rw [date, h, ← date]
  rw [hday, ← Date.toDay_lt_iff u.date_valid v.date_valid, date, date, Date.toDay_ofDay,
    Date.toDay_ofDay]
  simp only [sinceMidnight, daySpan, second]
  omega

theorem two_append_lt_iff {m n : Nat} (hm : m < 100) (hn : n < 100) {s t : Text} :
    two m ++ s < two n ++ t ↔ m < n ∨ m = n ∧ s < t :=
  Text.padded_append_lt_iff (by decide) hm hn

/-- Dates are written with the year first, then the month, then the day. -/
theorem dateText_append_lt_iff {d e : Date} (hd : d.Valid) (he : e.Valid) {s t : Text} :
    dateText d ++ s < dateText e ++ t ↔ d.Before e ∨ d = e ∧ s < t := by
  obtain ⟨-, hyear, -, hmonth, -, hday⟩ := hd
  obtain ⟨-, hyear', -, hmonth', -, hday'⟩ := he
  have hlast := daysInMonth_le d.year d.month
  have hlast' := daysInMonth_le e.year e.month
  have hparts (f : Date) (r : Text) : dateText f ++ r =
      Text.ofNatPadded 4 f.year ++ 45 :: (two f.month ++ 45 :: (two f.day ++ r)) := by
    simp [dateText]
  have hequal : d = e ↔ d.year = e.year ∧ d.month = e.month ∧ d.day = e.day := by
    rw [← Date.mk.injEq]
  rw [hparts, hparts, hequal, Date.Before,
    Text.padded_append_lt_iff (by decide) (by omega) (by omega), List.cons_lt_cons_self,
    two_append_lt_iff (by omega) (by omega), List.cons_lt_cons_self,
    two_append_lt_iff (by omega) (by omega)]
  tauto

/-- Times are written with the hours first and the microseconds last. -/
theorem clockText_append_lt_iff {a b x y : Nat} (ha : a < 86400) (hb : b < 86400)
    (hx : x < 10 ^ 6) (hy : y < 10 ^ 6) {s : Text} :
    timeText a ++ microsText x ++ s < timeText b ++ microsText y ++ s ↔ a < b ∨ a = b ∧ x < y := by
  have hparts (n m : Nat) : timeText n ++ microsText m ++ s =
      two (n / 3600) ++ 58 :: (two (n / 60 % 60) ++ 58 :: (two (n % 60) ++
        46 :: (Text.ofNatPadded 6 m ++ s))) := by
    simp [timeText, microsText]
  have hirrefl : ¬ s < s := List.lt_irrefl s
  rw [hparts, hparts, two_append_lt_iff (by omega) (by omega), List.cons_lt_cons_self,
    two_append_lt_iff (by omega) (by omega), List.cons_lt_cons_self,
    two_append_lt_iff (by omega) (by omega), List.cons_lt_cons_self,
    Text.padded_append_lt_iff (by decide) hx hy]
  simp only [hirrefl, and_false, or_false]
  omega

/-- Of two moments in UTC the earlier one has the lesser text. -/
theorem fullText_lt_iff {u v : Moment} (hu : u.offset = some 0) (hv : v.offset = some 0) :
    u.fullText < v.fullText ↔ u.wall < v.wall := by
  have hseconds (w : Moment) : w.sinceMidnight / second < 86400 := by
    simp only [sinceMidnight, daySpan, second]
    omega
  have hmicros (w : Moment) : w.wall % second < 10 ^ 6 := Nat.mod_lt _ (by decide)
  rw [fullText_eq hu, fullText_eq hv, dateText_append_lt_iff u.date_valid v.date_valid,
    List.cons_lt_cons_self,
    clockText_append_lt_iff (hseconds u) (hseconds v) (hmicros u) (hmicros v), wall_lt_iff]

end Moment

end ProofLedger
