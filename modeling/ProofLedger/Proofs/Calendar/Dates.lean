import ProofLedger.Calendar.Date

/-!
# Days and their dates

`toDay_ofDay`: the date of a day is the date of that day, and it exists (`valid_ofDay`). The year
comes from an estimate by the mean length of a year, so the two bounds on it (`yearOf_spec`) are
all that has to be known of the estimate; the month comes from the lengths of the months one after
another, and `monthOf_spec` is by induction on them.
-/

namespace ProofLedger.Calendar

/-- A year is as long as its kind says. -/
theorem daysBeforeYear_succ {year : Nat} (h : 1 ≤ year) :
    daysBeforeYear (year + 1) = daysBeforeYear year + if isLeap year then 366 else 365 := by
  obtain ⟨n, rfl⟩ : ∃ n, year = n + 1 := ⟨year - 1, by omega⟩
  have h4 : (n + 1) / 4 = n / 4 + if (n + 1) % 4 = 0 then 1 else 0 := by split <;> omega
  have h100 : (n + 1) / 100 = n / 100 + if (n + 1) % 100 = 0 then 1 else 0 := by split <;> omega
  have h400 : (n + 1) / 400 = n / 400 + if (n + 1) % 400 = 0 then 1 else 0 := by split <;> omega
  have hcentury : (n + 1) % 100 = 0 → (n + 1) % 4 = 0 := by omega
  have hfourth : (n + 1) % 400 = 0 → (n + 1) % 100 = 0 := by omega
  have hle : n / 100 ≤ n := Nat.div_le_self n 100
  simp only [daysBeforeYear, isLeap, Nat.add_sub_cancel, h4, h100, h400]
  generalize n / 4 = q, n / 100 = c, n / 400 = f at *
  by_cases hq : (n + 1) % 4 = 0 <;> by_cases hc : (n + 1) % 100 = 0 <;>
    by_cases hf : (n + 1) % 400 = 0 <;> simp_all <;> omega

theorem daysBeforeYear_le {a b : Nat} (ha : 1 ≤ a) (h : a ≤ b) :
    daysBeforeYear a ≤ daysBeforeYear b := by
  induction h with
  | refl => exact Nat.le_refl _
  | step hab ih =>
    rw [Nat.succ_eq_add_one, daysBeforeYear_succ (Nat.le_trans ha hab)]
    exact Nat.le_trans ih (Nat.le_add_right _ _)

theorem sum_monthLengths (leap : Bool) :
    (monthLengths leap).foldr (· + ·) 0 = if leap then 366 else 365 := by
  cases leap <;> rfl

theorem daysInMonth_le (year month : Nat) : daysInMonth year month ≤ 31 := by
  have hlengths : ∀ leap, ∀ n ∈ 0 :: monthLengths leap, n ≤ 31 := by decide
  unfold daysInMonth
  cases hmonth : (0 :: monthLengths (isLeap year))[month]? with
  | none => exact Nat.zero_le 31
  | some n => exact hlengths _ n (List.mem_of_getElem? hmonth)

namespace Date

/-- The year of a day holds the day. -/
theorem yearOf_spec (day : Nat) :
    1 ≤ yearOf day ∧ daysBeforeYear (yearOf day) ≤ day ∧ day < daysBeforeYear (yearOf day + 1) := by
  simp only [yearOf]
  split
  · next h =>
    simp only [daysBeforeYear] at h ⊢
    omega
  · split
    · next h =>
      simp only [daysBeforeYear] at h ⊢
      omega
    · next hle hlt => exact ⟨by omega, by omega, by omega⟩

/-- A number of days within the lengths of some months ends in one of them. -/
theorem monthOf_spec {ns : List Nat} (first rest : Nat) (h : rest < ns.foldr (· + ·) 0) :
    ∃ k n, monthOf ns first rest = (first + k, rest - (ns.take k).foldr (· + ·) 0 + 1) ∧
      ns[k]? = some n ∧ (ns.take k).foldr (· + ·) 0 ≤ rest ∧
      rest < (ns.take k).foldr (· + ·) 0 + n := by
  induction ns generalizing first rest with
  | nil => exact absurd h (Nat.not_lt_zero rest)
  | cons n ns ih =>
    rw [List.foldr_cons] at h
    by_cases hn : rest < n
    · exact ⟨0, n, by simp [monthOf, hn], rfl, Nat.zero_le rest, by simpa using hn⟩
    · obtain ⟨k, m, hmonth, hm, hle, hlt⟩ := ih (first + 1) (rest - n) (by omega)
      refine ⟨k + 1, m, ?_, hm, ?_, ?_⟩
      · rw [monthOf, if_neg hn, hmonth, List.take_succ_cons, List.foldr_cons]
        congr 1
        · omega
        · omega
      · rw [List.take_succ_cons, List.foldr_cons]
        omega
      · rw [List.take_succ_cons, List.foldr_cons]
        omega

/-- What the date of a day is made of. -/
theorem ofDay_spec (day : Nat) :
    ∃ k n, (monthLengths (isLeap (yearOf day)))[k]? = some n ∧
      (ofDay day).year = yearOf day ∧ (ofDay day).month = k + 1 ∧
      (ofDay day).day ≤ n ∧ 1 ≤ (ofDay day).day ∧
      daysBeforeYear (yearOf day) + daysBeforeMonth (yearOf day) (k + 1) + ((ofDay day).day - 1) =
        day := by
  obtain ⟨hyear, hle, hlt⟩ := yearOf_spec day
  rw [daysBeforeYear_succ hyear] at hlt
  have hrest : day - daysBeforeYear (yearOf day) <
      (monthLengths (isLeap (yearOf day))).foldr (· + ·) 0 := by
    rw [sum_monthLengths]
    omega
  obtain ⟨k, n, hmonth, hn, hbefore, hwithin⟩ := monthOf_spec 1 _ hrest
  refine ⟨k, n, hn, rfl, ?_, ?_, ?_, ?_⟩
  · simp only [ofDay, hmonth]
    omega
  · simp only [ofDay, hmonth]
    omega
  · simp only [ofDay, hmonth]
    omega
  · simp only [ofDay, hmonth, daysBeforeMonth, Nat.add_sub_cancel]
    omega

/-- The date of a day within the calendar exists. -/
theorem valid_ofDay {day : Nat} (h : day < endOfDays) : (ofDay day).Valid := by
  obtain ⟨k, n, hn, hyear, hmonth, hday, hpos, -⟩ := ofDay_spec day
  obtain ⟨hfirst, hle, -⟩ := yearOf_spec day
  have hlast : yearOf day ≤ 9999 := by
    by_cases hyear : yearOf day ≤ 9999
    · exact hyear
    · have hend := daysBeforeYear_le (a := 10000) (by decide) (by omega : 10000 ≤ yearOf day)
      rw [endOfDays] at h
      omega
  have hk : k < 12 := (List.getElem?_eq_some_iff.mp hn).1
  have hlength : daysInMonth (yearOf day) (k + 1) = n := by
    rw [daysInMonth, List.getElem?_cons_succ, hn, Option.getD_some]
  rw [Valid, hyear, hmonth, hlength]
  exact ⟨hfirst, hlast, by omega, by omega, hpos, hday⟩

/-- The date of a day is the date of that day. -/
theorem toDay_ofDay (day : Nat) : (ofDay day).toDay = day := by
  obtain ⟨k, n, -, hyear, hmonth, -, -, hsum⟩ := ofDay_spec day
  rw [toDay, hyear, hmonth]
  exact hsum

end Date

end ProofLedger.Calendar
