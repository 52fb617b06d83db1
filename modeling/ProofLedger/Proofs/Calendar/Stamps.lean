import ProofLedger.Proofs.Calendar.Reading
import ProofLedger.Record.Identity

/-!
# Names that tell moments apart

A record is named for its label and the moment it was made at. `derive_inj`: whatever the labels,
two names are the same only when the moments are. The stamp at the end of a name has no dash, so
the last dash of a name is where it begins, and the stamp shows the moment (`stampText_inj`): only
its first number, the year, has no fixed width.
-/

namespace ProofLedger

open Calendar

namespace Moment

theorem length_stampText (m : Moment) :
    (two m.date.month).length = 2 ∧ (two m.date.day).length = 2 ∧
      (two (m.sinceMidnight / second / 3600)).length = 2 ∧
      (two (m.sinceMidnight / second / 60 % 60)).length = 2 ∧
      (two (m.sinceMidnight / second % 60)).length = 2 ∧
      (Text.ofNatPadded 6 (m.wall % second)).length = 6 := by
  obtain ⟨-, -, -, hmonth, -, hday⟩ := m.date_valid
  have hlast := daysInMonth_le m.date.year m.date.month
  have hmidnight : m.sinceMidnight / second < 86400 := by
    simp only [sinceMidnight, daySpan, second]
    omega
  exact ⟨length_two (by omega), length_two (by omega), length_two (by omega),
    length_two (by omega), length_two (by omega),
    Text.length_ofNatPadded (by decide) (Nat.mod_lt _ (by decide))⟩

/-- A stamp shows the wall time. -/
theorem stampText_inj {a b : Moment} (h : a.stampText = b.stampText) : a.wall = b.wall := by
  obtain ⟨hmonth, hday, hhour, hminute, hsecond, hmicros⟩ := a.length_stampText
  obtain ⟨hmonth', hday', hhour', hminute', hsecond', hmicros'⟩ := b.length_stampText
  obtain ⟨h, -⟩ := List.append_inj' h rfl
  obtain ⟨h, micros⟩ := List.append_inj' h (hmicros.trans hmicros'.symm)
  obtain ⟨h, seconds⟩ := List.append_inj' h (hsecond.trans hsecond'.symm)
  obtain ⟨h, minutes⟩ := List.append_inj' h (hminute.trans hminute'.symm)
  obtain ⟨h, hours⟩ := List.append_inj' h (hhour.trans hhour'.symm)
  obtain ⟨h, -⟩ := List.append_inj' h rfl
  obtain ⟨h, day⟩ := List.append_inj' h (hday.trans hday'.symm)
  obtain ⟨year, month⟩ := List.append_inj' h (hmonth.trans hmonth'.symm)
  have hdate : a.date = b.date := by
    have hyear := Text.ofNat_injective year
    have hmonth := Text.ofNatPadded_injective month
    have hday := Text.ofNatPadded_injective day
    cases hda : a.date
    cases hdb : b.date
    simp_all
  have hdays : a.wall / daySpan = b.wall / daySpan := by
    rw [← Date.toDay_ofDay (a.wall / daySpan), ← Date.toDay_ofDay (b.wall / daySpan)]
    exact congrArg Date.toDay hdate
  have hhours := Text.ofNatPadded_injective hours
  have hminutes := Text.ofNatPadded_injective minutes
  have hseconds := Text.ofNatPadded_injective seconds
  have hfraction := Text.ofNatPadded_injective micros
  simp only [sinceMidnight, daySpan, second] at *
  omega

/-- There is no dash in a stamp. -/
theorem dash_not_mem_stampText (m : Moment) : 45 ∉ m.stampText := by
  have hpadded : ∀ width n, 45 ∉ Text.ofNatPadded width n :=
    fun width n h => absurd (Text.all_isDigit_padded width n 45 h) (by decide)
  have hyear : 45 ∉ Text.ofNat m.date.year :=
    fun h => absurd (Text.all_isDigit_ofNat _ 45 h) (by decide)
  have hmarks : 45 ∉ ("T" : Text) ∧ 45 ∉ ("Z" : Text) := by decide
  simp only [stampText, two, List.mem_append, hpadded, hyear, hmarks, or_self, not_false_eq_true]

end Moment

namespace Identity

/-- What follows the last mark is the same in texts that are the same. -/
theorem eq_of_last_mark {a b s s' : Text} {c : Nat} (h : a ++ c :: s = b ++ c :: s') (hs : c ∉ s)
    (hs' : c ∉ s') : s = s' := by
  rcases List.append_eq_append_iff.mp h with ⟨x, -, hx⟩ | ⟨x, -, hx⟩
  · cases x with
    | nil => exact (List.cons.inj hx).2
    | cons y x =>
      refine absurd ?_ hs
      rw [(List.cons.inj hx).2]
      exact List.mem_append_right x List.mem_cons_self
  · cases x with
    | nil => exact (List.cons.inj hx).2.symm
    | cons y x =>
      refine absurd ?_ hs'
      rw [(List.cons.inj hx).2]
      exact List.mem_append_right x List.mem_cons_self

/-- The name for a label and a moment that UTC reaches. -/
theorem derive_eq {label : Text} {m u : Moment} (haware : m.isAware = true)
    (hutc : m.utc? = some u) : derive label m = .ok (slug label ++ 45 :: u.stampText) := by
  simp [derive, isUnplaced, haware, hutc]

/-- A name says when its record was made, whatever the label. -/
theorem derive_inj {label label' : Text} {u v : Moment}
    (h : slug label ++ 45 :: u.stampText = slug label' ++ 45 :: v.stampText) : u.wall = v.wall :=
  Moment.stampText_inj
    (eq_of_last_mark h u.dash_not_mem_stampText v.dash_not_mem_stampText)

end Identity

end ProofLedger
