import Mathlib.Data.List.Basic
import ProofLedger.Calendar.Reader
import ProofLedger.Proofs.Calendar.Dates
import ProofLedger.Proofs.Text.Numeral
import ProofLedger.Proofs.Text.Utf8

/-!
# Written moments read back

`parse?_fullText`: the text that a record gives to a moment in UTC is read as that moment. The
reader takes numbers of a fixed width one after another, so `digits?_padded` does most of the work;
what is left is where each part of the text ends.
-/

namespace ProofLedger.Moment

open Calendar

/-! ## Parts of a text -/

/-- Octets past the first part of a text. -/
theorem octetAt_append {a : List Nat} {n : Nat} (ha : a.length = n) (b : List Nat) (i : Nat) :
    octetAt (a ++ b) (n + i) = octetAt b i := by
  simp [octetAt, List.getD_eq_getElem?_getD, List.getElem?_append_right, ← ha]

/-- A number of a given width is read off. -/
theorem digits?_padded {width n : Nat} (hwidth : 0 < width) (h : n < 10 ^ width)
    (rest : List Nat) : digits? width (Text.ofNatPadded width n ++ rest) = some (n, rest) := by
  have hlength := Text.length_ofNatPadded hwidth h
  have hdigits : (Text.ofNatPadded width n).all Text.isDigit = true :=
    List.all_eq_true.mpr (Text.all_isDigit_padded width n)
  rw [digits?, List.take_left' hlength, List.drop_left' hlength, if_pos ⟨hlength, hdigits⟩,
    Text.natValue_ofNatPadded]

theorem length_two {n : Nat} (h : n < 100) : (two n).length = 2 :=
  Text.length_ofNatPadded (by decide) h

theorem digits?_two {n : Nat} (h : n < 100) (rest : List Nat) :
    digits? 2 (two n ++ rest) = some (n, rest) :=
  digits?_padded (by decide) h rest

/-- A number starts with a digit. -/
theorem isDigit_octetAt_padded (width n : Nat) (rest : List Nat) :
    Text.isDigit (octetAt (Text.ofNatPadded width n ++ rest) 0) = true := by
  have hdigits := Text.all_isDigit_padded width n
  cases hds : Text.ofNatPadded width n with
  | nil => exact absurd hds (Text.ofNatPadded_ne_nil width n)
  | cons c r => exact hdigits c (hds ▸ List.mem_cons_self)

/-! ## The date -/

section Dates

variable {d : Date} (hd : d.Valid) (rest : List Nat)
include hd

theorem length_dateText : (dateText d).length = 10 := by
  obtain ⟨-, hyear, -, hmonth, -, hday⟩ := hd
  have hlast := daysInMonth_le d.year d.month
  have hfour : (Text.ofNatPadded 4 d.year).length = 4 :=
    Text.length_ofNatPadded (by decide) (by omega)
  have hmonth := length_two (n := d.month) (by omega)
  have hday := length_two (n := d.day) (by omega)
  simp only [dateText, List.length_append, List.length_cons, hfour, hmonth, hday]

/-- What follows the year: a dash and a digit. -/
theorem octetAt_dateText : octetAt (dateText d ++ rest) 4 = 45 ∧
    Text.isDigit (octetAt (dateText d ++ rest) 5) = true := by
  obtain ⟨-, hyear, -⟩ := hd
  have hfour : (Text.ofNatPadded 4 d.year).length = 4 :=
    Text.length_ofNatPadded (by decide) (by omega)
  rw [dateText, List.append_assoc]
  refine ⟨octetAt_append hfour _ 0, ?_⟩
  rw [octetAt_append hfour _ 1, List.cons_append, List.append_assoc]
  exact isDigit_octetAt_padded 2 d.month _

theorem separatorAt?_dateText : separatorAt? (dateText d ++ rest) = some 10 := by
  obtain ⟨hdash, hdigit⟩ := octetAt_dateText hd rest
  have hlength : (dateText d ++ rest).length ≠ 7 := by
    rw [List.length_append, length_dateText hd]
    omega
  have hweek : octetAt (dateText d ++ rest) 5 ≠ 87 := by
    intro hweek
    rw [hweek] at hdigit
    cases hdigit
  rw [separatorAt?, if_neg hlength, if_pos hdash, if_neg hweek]

theorem readDay?_dateText (stop : Nat) : readDay? stop (dateText d ++ rest) = some d.toDay := by
  have hvalid := hd
  obtain ⟨-, hyear, -, hmonth, -, hday⟩ := hd
  have hlast := daysInMonth_le d.year d.month
  have hweek : octetAt (two d.month ++ (45 :: (two d.day ++ rest))) 0 ≠ 87 := by
    intro hweek
    have hdigit := isDigit_octetAt_padded 2 d.month (45 :: (two d.day ++ rest))
    rw [two] at hweek
    rw [hweek] at hdigit
    cases hdigit
  have htext : dateText d ++ rest =
      Text.ofNatPadded 4 d.year ++ (45 :: (two d.month ++ (45 :: (two d.day ++ rest)))) := by
    simp [dateText]
  rw [htext, readDay?, digits?_padded (by decide) (by omega)]
  simp only [bind, Option.bind]
  have hdash : (octetAt (45 :: (two d.month ++ (45 :: (two d.day ++ rest)))) 0 == 45) = true := rfl
  simp only [hdash, if_true, List.drop_succ_cons, List.drop_zero, if_neg hweek,
    digits?_two (show d.month < 100 by omega), dash?, digits?_two (show d.day < 100 by omega)]
  exact if_pos hvalid

end Dates

/-! ## The time -/

/-- What times are written with. -/
theorem mem_clockText {seconds micros c : Nat} (h : c ∈ timeText seconds ++ microsText micros) :
    Text.isDigit c = true ∨ c = 58 ∨ c = 46 := by
  simp only [timeText, microsText, List.mem_append, List.mem_cons] at h
  rcases h with (h | h | h | h | h) | h | h
  · exact .inl (Text.all_isDigit_padded 2 _ c h)
  · exact .inr (.inl h)
  · exact .inl (Text.all_isDigit_padded 2 _ c h)
  · exact .inr (.inl h)
  · exact .inl (Text.all_isDigit_padded 2 _ c h)
  · exact .inr (.inr h)
  · exact .inl (Text.all_isDigit_padded 6 _ c h)

/-- The text of no distance from UTC. -/
def utcText : Text := offsetText 0

theorem utcText_eq : utcText = "+00:00" := by
  have hzero : Text.ofNatPadded 2 0 = [48, 48] := by
    rw [Text.ofNatPadded, Text.ofNat_lt (by decide)]
    rfl
  simp only [utcText, offsetText, two, Int.natAbs_zero, Nat.zero_div, Nat.zero_mod, hzero]
  rfl

section Times

variable {seconds micros : Nat} (hseconds : seconds < 86400) (hmicros : micros < 1000000)
include hseconds hmicros

theorem length_clockText : (timeText seconds ++ microsText micros).length = 15 := by
  have hhours := length_two (n := seconds / 3600) (by omega)
  have hminutes := length_two (n := seconds / 60 % 60) (by omega)
  have hrest := length_two (n := seconds % 60) (by omega)
  have hfraction : (Text.ofNatPadded 6 micros).length = 6 :=
    Text.length_ofNatPadded (by decide) hmicros
  simp only [timeText, microsText, List.length_append, List.length_cons, hhours, hminutes, hrest,
    hfraction]

/-- The fields of a time with colons between them, and its fraction. -/
theorem readTime?_clockText : readTime? 15 (timeText seconds ++ microsText micros ++ utcText) =
    some ⟨seconds / 3600, seconds / 60 % 60, seconds % 60, micros, true⟩ := by
  have hhours := digits?_two (n := seconds / 3600) (by omega)
  have hminutes := digits?_two (n := seconds / 60 % 60) (by omega)
  have hrest := digits?_two (n := seconds % 60) (by omega)
  have hfraction : digits? 6 (Text.ofNatPadded 6 micros ++ utcText) = some (micros, utcText) :=
    digits?_padded (by decide) hmicros utcText
  have htext : timeText seconds ++ microsText micros ++ utcText =
      two (seconds / 3600) ++ (58 :: (two (seconds / 60 % 60) ++ (58 :: (two (seconds % 60) ++
        (46 :: (Text.ofNatPadded 6 micros ++ utcText)))))) := by
    simp [timeText, microsText]
  have hfields : readFields? none 3 15 (timeText seconds ++ microsText micros ++ utcText) =
      some ([seconds / 3600, seconds / 60 % 60, seconds % 60],
        .fraction 6 (Text.ofNatPadded 6 micros ++ utcText)) := by
    rw [htext]
    simp [readFields?, hhours, hminutes, hrest, octetAt]
  have hmicros : readFraction? 6 (Text.ofNatPadded 6 micros ++ utcText) = some (micros, true) := by
    simp [readFraction?, hfraction]
    decide
  rw [readTime?, hfields]
  simp only [bind, Option.bind, hmicros]
  rfl

theorem readClock?_clockText : readClock? (timeText seconds ++ microsText micros ++ utcText) =
    some (seconds * second + micros, some 0) := by
  have hpoints : ∀ c ∈ timeText seconds ++ microsText micros, (!startsZone c) = true := by
    intro c hc
    rcases mem_clockText hc with hc | rfl | rfl
    · simp only [Text.isDigit, Bool.and_eq_true, decide_eq_true_eq] at hc
      simp only [startsZone, Bool.not_eq_true', Bool.or_eq_false_iff, beq_eq_false_iff_ne]
      omega
    · rfl
    · rfl
  have hbefore : (timeText seconds ++ microsText micros ++ utcText).takeWhile
      (fun c => !startsZone c) = timeText seconds ++ microsText micros := by
    rw [List.takeWhile_append_of_pos hpoints]
    exact List.append_nil _
  have hbounds : seconds / 3600 < 24 ∧ seconds / 60 % 60 < 60 ∧ seconds % 60 < 60 := by omega
  have hwhole : seconds / 3600 * 3600 + seconds / 60 % 60 * 60 + seconds % 60 = seconds := by omega
  have htime : (⟨seconds / 3600, seconds / 60 % 60, seconds % 60, micros, true⟩ :
      TimeFields).micros? = some (seconds * second + micros) := by
    simp only [TimeFields.micros?, hbounds, and_self, if_true, hwhole]
  rw [readClock?, hbefore, List.drop_left, length_clockText hseconds hmicros,
    readTime?_clockText hseconds hmicros]
  have hzone : utcText.isEmpty = false ∧ readZone? utcText = some 0 := by
    rw [utcText_eq]
    decide
  simp only [bind, Option.bind, htime, hzone]
  rfl

end Times

/-! ## The whole text -/

theorem make?_wall (m : Moment) : make? m.wall m.offset = some m := by
  have hbounds : (0 : Int) ≤ m.wall ∧ (m.wall : Int) < endOfTime ∧
      ∀ o ∈ m.offset, o.natAbs < daySpan :=
    ⟨Int.natCast_nonneg _, Int.ofNat_lt.mpr m.wall_lt, m.offset_lt⟩
  rw [make?, dif_pos hbounds]
  rfl

/-- What UTC shows at a moment is the same instant. -/
theorem instant_of_utc? {m u : Moment} (h : m.utc? = some u) :
    u.offset = some 0 ∧ u.instant = m.instant := by
  rw [utc?, make?] at h
  split at h
  · next hbounds =>
    cases h
    refine ⟨rfl, ?_⟩
    have hpos := hbounds.1
    simp only [instant, Option.getD_some] at hpos ⊢
    omega
  · cases h

/-- A moment that UTC reaches has a text. -/
theorem format_eq {m u : Moment} (haware : m.isAware = true) (hutc : m.utc? = some u) :
    m.format = .ok u.fullText := by
  simp only [format, haware, if_true, hutc]

/-- A day of a moment is within the calendar. -/
theorem date_valid (m : Moment) : m.date.Valid := by
  have hwall := m.wall_lt
  refine Date.valid_ofDay (Nat.div_lt_of_lt_mul ?_)
  rwa [endOfTime, Nat.mul_comm] at hwall

section Utc

variable {u : Moment} (hu : u.offset = some 0)
include hu

/-- The parts of the text of a moment in UTC. -/
theorem fullText_eq : u.fullText = dateText u.date ++ (84 ::
    (timeText (u.sinceMidnight / second) ++ microsText (u.wall % second) ++ utcText)) := by
  have hzone : u.zoneText = utcText := by
    rw [zoneText, hu]
    rfl
  simp [fullText, wallText, hzone]

theorem readOctets?_fullText : readOctets? u.fullText = some u := by
  have hdate := u.date_valid
  have hseconds : u.sinceMidnight / second < 86400 := by
    simp only [sinceMidnight, daySpan, second]
    omega
  have hmicros : u.wall % second < 1000000 := Nat.mod_lt _ (by decide)
  have hwall : u.date.toDay * daySpan + (u.sinceMidnight / second * second + u.wall % second) =
      u.wall := by
    rw [date, Date.toDay_ofDay]
    simp only [sinceMidnight, daySpan, second]
    omega
  have hlong : 10 < u.fullText.length := by
    rw [fullText_eq hu, List.length_append, length_dateText hdate, List.length_cons]
    omega
  have hclock := readClock?_clockText hseconds hmicros
  have hmake := make?_wall u
  rw [fullText_eq hu] at hlong ⊢
  rw [hu, ← hwall] at hmake
  rw [readOctets?, separatorAt?_dateText hdate]
  simp only [bind, Option.bind, readDay?_dateText hdate, if_pos hlong,
    List.drop_left' (length_dateText hdate)]
  have hwidth : characterWidth (octetAt (84 :: (timeText (u.sinceMidnight / second) ++
      microsText (u.wall % second) ++ utcText)) 0) = 1 := rfl
  simp only [hwidth, List.drop_succ_cons, List.drop_zero, hclock]
  exact hmake

/-- What moments in UTC are written with: digits and marks, no `Z` among them. -/
theorem mem_fullText {c : Nat} (h : c ∈ u.fullText) : c < 90 := by
  have hdigit : Text.isDigit c = true → c < 90 := by
    intro hc
    simp only [Text.isDigit, Bool.and_eq_true, decide_eq_true_eq] at hc
    omega
  have hutc : ∀ x ∈ utcText, x < 90 := by
    rw [utcText_eq]
    decide
  rw [fullText_eq hu] at h
  simp only [dateText, List.mem_append, List.mem_cons] at h
  rcases h with (h | rfl | h | rfl | h) | rfl | h | h
  · exact hdigit (Text.all_isDigit_padded 4 _ c h)
  · decide
  · exact hdigit (Text.all_isDigit_padded 2 _ c h)
  · decide
  · exact hdigit (Text.all_isDigit_padded 2 _ c h)
  · decide
  · rcases mem_clockText (List.mem_append.mpr h) with h | rfl | rfl
    · exact hdigit h
    · decide
    · decide
  · exact hutc c h

theorem scalar_fullText : u.fullText.Scalar :=
  Text.Utf8.scalar_of_lt fun _ hc => Nat.lt_trans (mem_fullText hu hc) (by decide)

/-- A moment in UTC is read from its text. -/
theorem parse?_fullText : parse? u.fullText = some u := by
  have hplain : (u.fullText.flatMap fun c => if c = 90 then "+00:00" else [c]) = u.fullText := by
    have hcopy : ∀ c ∈ u.fullText, (if c = 90 then ("+00:00" : Text) else [c]) = [c] :=
      fun c hc => if_neg (Nat.ne_of_lt (mem_fullText hu hc))
    rw [List.flatMap_congr hcopy, List.flatMap_singleton']
  have hpatch : patchSeparator u.fullText = u.fullText := by
    have hnone : [7, 8, 10].find? (fun i => Text.isSurrogate (u.fullText.getD i 0)) = none := by
      refine List.find?_eq_none.mpr fun i _ => ?_
      rw [List.getD_eq_getElem?_getD]
      cases hc : u.fullText[i]? with
      | none => decide
      | some c =>
        have hlt := mem_fullText hu (List.mem_of_getElem? hc)
        simp only [Option.getD_some, Text.isSurrogate, Bool.and_eq_true, decide_eq_true_eq]
        omega
    rw [patchSeparator, hnone]
  have hoctets : (Text.Utf8.encode u.fullText).map UInt8.toNat = u.fullText :=
    Text.Utf8.encode_of_lt fun c hc => Nat.lt_trans (mem_fullText hu hc) (by decide)
  have hlong : ¬ u.fullText.length < 7 := by
    rw [fullText_eq hu, List.length_append, length_dateText u.date_valid]
    omega
  rw [parse?, hplain, ofText?, if_neg hlong, hpatch, Text.utf8?, if_pos (scalar_fullText hu)]
  simp only [bind, Option.bind, hoctets]
  exact readOctets?_fullText hu

end Utc

end ProofLedger.Moment
