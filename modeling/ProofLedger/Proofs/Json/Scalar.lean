import ProofLedger.Json.Printer
import ProofLedger.Json.Reader
import ProofLedger.Proofs.Number.Rank

/-!
# Strings and numbers of a document read back

The scanners of strings and numbers undo the printer of both: `readString_string` for every
text, lone surrogates and control characters included, `readNumber_ofInt` for the integers
that fit a numeral, and `readNumber_plain` for every finite double. Each is stated for a
text that something follows, because that is how a document is read. A number needs to know
what follows it: `EndsNumber` is the condition, and everything that a document puts behind
a value meets it.

The plain layout of a double has four shapes. Each of them spells the digits and the
exponent of the decimal it lays out, except that zeros in front of the point are written
out; `rank_mul_pow` says that these do not change the double.
-/

namespace ProofLedger.Json

/-! ## Strings -/

theorem hexText_control : ∀ c < 32,
    Text.Hex.ofNat 4 c = [48, 48, 48 + c / 16, Text.Utf8.hexDigit (c % 16)] := by
  decide

theorem hexValue?_control : ∀ c < 32,
    hexValue? 48 48 (48 + c / 16) (Text.Utf8.hexDigit (c % 16)) = some c := by
  decide

/-- The escape of a control character is read as that character, when something follows. -/
theorem readEscape_control {c x : Nat} (hc : c < 32) (r : Text) :
    readEscape (117 :: (Text.Hex.ofNat 4 c ++ x :: r)) = .ok (c, x :: r) := by
  have hhigh : Text.Wide.isHigh c = false := by
    simp only [Text.Wide.isHigh, Bool.and_eq_false_iff, decide_eq_false_iff_not]
    omega
  simp [readEscape, hexText_control c hc, readHex?, hexValue?_control c hc, hhigh]

/-- A letter that stands for a code point is read as that code point. -/
theorem readEscape_short {e v : Nat} (he : shortEscape? e = some v) (r : Text) :
    readEscape (e :: r) = .ok (v, r) := by
  unfold readEscape
  split
  · next heq =>
    cases heq
    cases he
  · next heq =>
    cases heq
    rw [he]
  · next heq => cases heq

theorem readChars_short (whole : Text) (fuel : Nat) (done : Text) {e v : Nat} (r : Text)
    (he : shortEscape? e = some v) :
    readChars whole (fuel + 1) done (92 :: e :: r) = readChars whole fuel (v :: done) r := by
  simp [readChars, readEscape_short he]

/-- One step of the string scanner takes what one code point was written as. -/
theorem readChars_escape (whole : Text) (fuel : Nat) (done : Text) (c x : Nat) (r : Text) :
    readChars whole (fuel + 1) done (escape c ++ x :: r) =
      readChars whole fuel (c :: done) (x :: r) := by
  have hshort : ∀ e, shortEscape? e = some c →
      readChars whole (fuel + 1) done (92 :: e :: x :: r) =
        readChars whole fuel (c :: done) (x :: r) :=
    fun e he => readChars_short whole fuel done (x :: r) he
  unfold escape
  -- the first seven cases are the escapes of one letter
  split
  · next h => exact hshort 34 (by rw [h]; rfl)
  split
  · next h => exact hshort 92 (by rw [h]; rfl)
  split
  · next h => exact hshort 110 (by rw [h]; rfl)
  split
  · next h => exact hshort 114 (by rw [h]; rfl)
  split
  · next h => exact hshort 116 (by rw [h]; rfl)
  split
  · next h => exact hshort 98 (by rw [h]; rfl)
  split
  · next h => exact hshort 102 (by rw [h]; rfl)
  split
  · next h =>
    have hread := readEscape_control h (x := x) r
    simp only [List.cons_append, readChars]
    simp [hread]
  · next hquote hslash _ _ _ _ _ hcontrol =>
    have hquote' : c ≠ 34 := hquote
    simp [readChars, hquote', hslash, hcontrol]

/-- The scanner takes a written text up to its closing quote. -/
theorem readChars_string (whole : Text) (t : Text) :
    ∀ (fuel : Nat) (done rest : Text), t.length < fuel →
      readChars whole fuel done (t.flatMap escape ++ 34 :: rest) =
        .ok (done.reverse ++ t, rest) := by
  induction t with
  | nil =>
    intro fuel done rest hfuel
    cases fuel with
    | zero => simp at hfuel
    | succ fuel => simp [readChars]
  | cons c r ih =>
    intro fuel done rest hfuel
    cases fuel with
    | zero => simp at hfuel
    | succ fuel =>
      have hrest := ih fuel (c :: done) rest (by simpa using hfuel)
      -- what follows a code point is never empty: at least the closing quote is left
      obtain ⟨x, tail, htail⟩ : ∃ x tail, r.flatMap escape ++ 34 :: rest = x :: tail := by
        cases h : r.flatMap escape with
        | nil => exact ⟨34, rest, rfl⟩
        | cons x xs => exact ⟨x, xs ++ 34 :: rest, rfl⟩
      rw [List.flatMap_cons, List.append_assoc, htail, readChars_escape, ← htail, hrest,
        List.reverse_cons, List.append_assoc, List.singleton_append]

/-- A written text reads back, given a step for each code point and one more. -/
theorem readString_string {fuel : Nat} {t : Text} (h : t.length < fuel) (rest : Text) :
    readString fuel (t.flatMap escape ++ 34 :: rest) = .ok (t, rest) := by
  rw [readString, readChars_string _ _ _ _ _ h, List.reverse_nil, List.nil_append]

/-! ## What follows a number -/

/-- What may stand behind a number: nothing that a number could go on with. -/
def EndsNumber (t : Text) : Prop :=
  ∀ c ∈ t.head?, Text.isDigit c = false ∧ c ≠ 46 ∧ c ≠ 101 ∧ c ≠ 69

theorem EndsNumber.endsDigits {t : Text} (h : EndsNumber t) : Text.EndsDigits t :=
  fun c hc => (h c hc).1

theorem endsNumber_nil : EndsNumber [] := fun _ h => absurd h (by simp)

theorem endsNumber_cons {c : Nat} {r : Text}
    (h : Text.isDigit c = false ∧ c ≠ 46 ∧ c ≠ 101 ∧ c ≠ 69) : EndsNumber (c :: r) :=
  fun _ hx => Option.some.inj hx ▸ h

/-! ## The parts of a number -/

/-- Digits that start with something else than a zero. -/
def IsLeading (ds : Text) : Prop :=
  (∀ c ∈ ds, Text.isDigit c = true) ∧ ∃ c ∈ ds.head?, c ≠ 48

theorem IsLeading.ne_nil {ds : Text} (h : IsLeading ds) : ds ≠ [] := by
  rintro rfl
  obtain ⟨c, hc, _⟩ := h.2
  cases hc

theorem isLeading_ofNat {n : Nat} (hn : n ≠ 0) : IsLeading (Text.ofNat n) := by
  obtain ⟨c, r, hr, hc, _⟩ := Text.head_ofNat hn
  exact ⟨Text.all_isDigit_ofNat n, c, by rw [hr]; rfl, hc⟩

theorem cutWhole_leading {ds rest : Text} (hds : IsLeading ds) (h : Text.EndsDigits rest) :
    cutWhole (ds ++ rest) = some (ds, rest) := by
  obtain ⟨hall, c, hc, hne⟩ := hds
  have hcut := Text.cutDigits_append hall h
  cases ds with
  | nil => cases hc
  | cons d r =>
    obtain rfl : d = c := Option.some.inj hc
    have hd : Text.isDigit d = true := hall d List.mem_cons_self
    simp only [List.cons_append] at hcut ⊢
    simp [cutWhole, hne, hd, hcut]

theorem cutWhole_ofNat (n : Nat) {rest : Text} (h : Text.EndsDigits rest) :
    cutWhole (Text.ofNat n ++ rest) = some (Text.ofNat n, rest) := by
  by_cases hn : n = 0
  · subst hn
    rw [Text.ofNat_lt (by decide)]
    rfl
  · exact cutWhole_leading (isLeading_ofNat hn) h

theorem cutWhole_zero (rest : Text) : cutWhole (48 :: rest) = some ([48], rest) := rfl

theorem cutFraction_digits {ds rest : Text} (hne : ds ≠ []) (hds : ∀ c ∈ ds, Text.isDigit c = true)
    (hrest : Text.EndsDigits rest) : cutFraction (46 :: (ds ++ rest)) = (ds, rest) := by
  simp only [cutFraction, Text.cutDigits_append hds hrest]

theorem cutFraction_none {t : Text} (h : ∀ c ∈ t.head?, c ≠ 46) : cutFraction t = ([], t) := by
  unfold cutFraction
  split
  · next r => exact absurd rfl (h 46 rfl)
  · rfl

theorem cutExponent_none {t : Text} (h : ∀ c ∈ t.head?, c ≠ 101 ∧ c ≠ 69) :
    cutExponent t = (none, t) := by
  cases t with
  | nil => rfl
  | cons c r =>
    have hc := h c rfl
    simp [cutExponent, hc.1, hc.2]

/-- A written exponent reads back. -/
theorem cutExponent_text (e : Int) {rest : Text} (h : Text.EndsDigits rest) :
    cutExponent (Decimal.exponentText e ++ rest) = (some e, rest) := by
  have hcut := Text.cutDigits_append (Text.all_isDigit_padded 2 e.natAbs) h
  have hvalue : Text.natValue (Text.ofNatPadded 2 e.natAbs) = e.natAbs :=
    Text.natValue_ofNatPadded 2 e.natAbs
  cases hds : Text.ofNatPadded 2 e.natAbs with
  | nil => exact absurd hds (Text.ofNatPadded_ne_nil _ _)
  | cons d ds =>
    rw [hds] at hcut hvalue
    by_cases he : e < 0
    · simp only [Decimal.exponentText, hds, he, List.cons_append, cutExponent, ↓reduceIte]
      simp only [List.cons_append] at hcut
      have habs : -(e.natAbs : Int) = e := by omega
      simp only [Number.cutSign, hcut, hvalue, true_or, if_true, habs]
    · simp only [Decimal.exponentText, hds, he, List.cons_append, cutExponent, ↓reduceIte]
      simp only [List.cons_append] at hcut
      have habs : (e.natAbs : Int) = e := by omega
      simp only [Number.cutSign, hcut, hvalue, true_or, if_true, Bool.false_eq_true, if_false, habs]

/-! ## Numbers -/

/-- A number is read by its parts, with or without a minus sign in front of them. -/
theorem readNumber_of_parts (negative : Bool) {body whole r₁ fraction r₂ rest : Text}
    {exponent : Option Int} (hhead : ∀ c ∈ body.head?, c ≠ 45)
    (hwhole : cutWhole body = some (whole, r₁)) (hfraction : cutFraction r₁ = (fraction, r₂))
    (hexponent : cutExponent r₂ = (exponent, rest)) :
    readNumber (Decimal.signText negative false ++ body) =
      if fraction.isEmpty && exponent.isNone then
        if Number.maxDigits < whole.length then .error .longInteger
        else
          .ok (.int (if negative then -(Text.natValue whole : Int) else Text.natValue whole), rest)
      else
        .ok (.double ((⟨whole, fraction, exponent.getD 0⟩ : Number.Numeral).toDecimal.toDouble
          negative), rest) := by
  cases negative with
  | true => simp [Decimal.signText, readNumber, hwhole, hfraction, hexponent]
  | false =>
    cases body with
    | nil => cases hwhole
    | cons c r =>
      have hc : c ≠ 45 := hhead c rfl
      simp [Decimal.signText, readNumber, hwhole, hfraction, hexponent, hc]

theorem ne_minus_of_isDigit {c : Nat} (h : Text.isDigit c = true) : c ≠ 45 := by
  rintro rfl
  cases h

/-- Digits in front of a text are no minus sign. -/
theorem head_digits_ne_minus {ds rest : Text} (hne : ds ≠ [])
    (hds : ∀ c ∈ ds, Text.isDigit c = true) : ∀ c ∈ (ds ++ rest).head?, c ≠ 45 := by
  intro c hc
  cases ds with
  | nil => exact absurd rfl hne
  | cons d ds => exact Option.some.inj hc ▸ ne_minus_of_isDigit (hds d List.mem_cons_self)

theorem ofInt_eq (n : Int) :
    Text.ofInt n = Decimal.signText (decide (n < 0)) false ++ Text.ofNat n.natAbs := by
  cases n with
  | ofNat n => simp [Text.ofInt, Decimal.signText]
  | negSucc n => simp [Text.ofInt, Decimal.signText, Int.negSucc_lt_zero]

/-- An integer that fits a numeral reads back. -/
theorem readNumber_ofInt {n : Int} (hn : Number.fits n = true) {rest : Text}
    (hrest : EndsNumber rest) : readNumber (Text.ofInt n ++ rest) = .ok (.int n, rest) := by
  have hlength : ¬ Number.maxDigits < (Text.ofNat n.natAbs).length :=
    Nat.not_lt.mpr ((Text.length_ofNat_le_iff _ (by decide)).mpr (of_decide_eq_true hn))
  rw [ofInt_eq, List.append_assoc,
    readNumber_of_parts _ (head_digits_ne_minus (Text.ofNat_ne_nil _) (Text.all_isDigit_ofNat _))
      (cutWhole_ofNat _ hrest.endsDigits) (cutFraction_none fun c hc => (hrest c hc).2.1)
      (cutExponent_none fun c hc => (hrest c hc).2.2)]
  simp only [List.isEmpty_nil, Option.isNone_none, Bool.and_self, ↓reduceIte, hlength,
    Text.natValue_ofNat, decide_eq_true_eq]
  split
  · next h => rw [show -(n.natAbs : Int) = n by omega]
  · next h => rw [show (n.natAbs : Int) = n by omega]

/-! ## Doubles -/

theorem endsDigits_point (r : Text) : Text.EndsDigits (46 :: r) := Text.endsDigits_cons rfl

theorem endsDigits_exponent (e : Int) (rest : Text) :
    Text.EndsDigits (Decimal.exponentText e ++ rest) := Text.endsDigits_cons rfl

/-- A number with a point and without an exponent. -/
theorem readNumber_point (negative : Bool) (whole fraction : Text) {rest : Text}
    (hwhole : ∀ r, Text.EndsDigits r → cutWhole (whole ++ r) = some (whole, r))
    (hhead : ∀ c ∈ whole.head?, c ≠ 45) (hne : whole ≠ [])
    (hfraction : ∀ c ∈ fraction, Text.isDigit c = true) (hfne : fraction ≠ [])
    (hrest : EndsNumber rest) :
    readNumber (Decimal.signText negative false ++ (whole ++ 46 :: (fraction ++ rest))) =
      .ok (.double (.ofRank negative
        (⟨Text.natValue (whole ++ fraction), -(fraction.length : Int)⟩ : Decimal).rank), rest) := by
  have hhead' : ∀ c ∈ (whole ++ 46 :: (fraction ++ rest)).head?, c ≠ 45 := by
    cases whole with
    | nil => exact absurd rfl hne
    | cons c r => exact hhead
  rw [readNumber_of_parts negative hhead' (hwhole _ (endsDigits_point _))
    (cutFraction_digits hfne hfraction hrest.endsDigits)
    (cutExponent_none fun c hc => (hrest c hc).2.2)]
  have hempty : fraction.isEmpty = false := by
    cases fraction with
    | nil => exact absurd rfl hfne
    | cons c r => rfl
  simp only [hempty, Bool.false_and, Bool.false_eq_true, ↓reduceIte, Number.Numeral.toDecimal,
    Decimal.toDouble, Option.getD_none, Int.zero_sub]

/-- A number with an exponent, with or without a point. -/
theorem readNumber_exponent (negative : Bool) {whole : Text} (fraction : Text) {rest : Text}
    (e : Int) (hwhole : IsLeading whole) (hfraction : ∀ c ∈ fraction, Text.isDigit c = true)
    (hrest : EndsNumber rest) :
    readNumber (Decimal.signText negative false ++
        (whole ++ ((if fraction = [] then [] else 46 :: fraction) ++
          (Decimal.exponentText e ++ rest)))) =
      .ok (.double (.ofRank negative
        (⟨Text.natValue (whole ++ fraction), e - fraction.length⟩ : Decimal).rank), rest) := by
  have hcut : cutFraction ((if fraction = [] then [] else 46 :: fraction) ++
      (Decimal.exponentText e ++ rest)) = (fraction, Decimal.exponentText e ++ rest) := by
    split
    · next h =>
      subst h
      exact cutFraction_none fun c hc => by cases hc; decide
    · next h => exact cutFraction_digits h hfraction (endsDigits_exponent e rest)
  have hends : Text.EndsDigits ((if fraction = [] then [] else 46 :: fraction) ++
      (Decimal.exponentText e ++ rest)) := by
    split
    · exact endsDigits_exponent e rest
    · exact endsDigits_point _
  rw [readNumber_of_parts negative (head_digits_ne_minus hwhole.ne_nil hwhole.1)
    (cutWhole_leading hwhole hends) hcut (cutExponent_text e hrest.endsDigits)]
  simp only [Option.isNone_some, Bool.and_false, Bool.false_eq_true, ↓reduceIte,
    Number.Numeral.toDecimal, Decimal.toDouble, Option.getD_some]

theorem IsLeading.take {ds : Text} (h : IsLeading ds) {k : Nat} (hk : 0 < k) :
    IsLeading (ds.take k) := by
  obtain ⟨hall, c, hc, hne⟩ := h
  refine ⟨fun x hx => hall x (List.mem_of_mem_take hx), c, ?_, hne⟩
  cases ds with
  | nil => cases hc
  | cons d r => rw [List.take_cons hk]; exact hc

theorem IsLeading.append {ds : Text} (h : IsLeading ds) {t : Text}
    (ht : ∀ c ∈ t, Text.isDigit c = true) : IsLeading (ds ++ t) := by
  obtain ⟨hall, c, hc, hne⟩ := h
  refine ⟨fun x hx => (List.mem_append.mp hx).elim (hall x) (ht x), c, ?_, hne⟩
  cases ds with
  | nil => cases hc
  | cons d r => exact hc

theorem all_isDigit_zeros (k : Nat) : ∀ c ∈ List.replicate k 48, Text.isDigit c = true := by
  intro c hc
  rw [(List.mem_replicate.mp hc).2]
  rfl

theorem natValue_append_zeros (t : Text) (k : Nat) :
    Text.natValue (t ++ List.replicate k 48) = Text.natValue t * 10 ^ k := by
  rw [Text.natValue_append, Text.natValue_zeros, List.length_replicate, Nat.add_zero]

/-! The four layouts of a decimal, each with the digits and the exponent that it spells. -/

section Layouts

variable (negative : Bool) {ds rest : Text}

/-- Zeros between the point and the digits. -/
theorem readNumber_belowPoint (hds : IsLeading ds) (hrest : EndsNumber rest) (k : Nat) :
    readNumber (Decimal.signText negative false ++
        (48 :: 46 :: (List.replicate k 48 ++ ds) ++ rest)) =
      .ok (.double (.ofRank negative
        (⟨Text.natValue ds, -((k : Int) + ds.length)⟩ : Decimal).rank), rest) := by
  have hdigits : ∀ c ∈ List.replicate k 48 ++ ds, Text.isDigit c = true :=
    fun c hc => (List.mem_append.mp hc).elim (all_isDigit_zeros k c) (hds.1 c)
  have hread := readNumber_point negative [48] _ (fun r _ => cutWhole_zero r)
    (fun c hc => by cases hc; decide) (by simp) hdigits (by simp [hds.ne_nil]) hrest
  have hvalue : Text.natValue ([48] ++ (List.replicate k 48 ++ ds)) = Text.natValue ds := by
    rw [Text.natValue_append, Text.natValue_append, Text.natValue_zeros]
    simp [Text.natValue]
  rw [hvalue, List.length_append, List.length_replicate, Int.natCast_add] at hread
  exact hread

/-- Zeros between the digits and the point. -/
theorem readNumber_abovePoint (hds : IsLeading ds) (hrest : EndsNumber rest) (k : Nat) :
    readNumber (Decimal.signText negative false ++
        (ds ++ List.replicate k 48 ++ 46 :: [48] ++ rest)) =
      .ok (.double (.ofRank negative (⟨Text.natValue ds, k⟩ : Decimal).rank), rest) := by
  have hwhole : IsLeading (ds ++ List.replicate k 48) := hds.append (all_isDigit_zeros k)
  have hread := readNumber_point negative _ [48]
    (fun r hr => cutWhole_leading hwhole hr)
    (fun c hc => ne_minus_of_isDigit (hwhole.1 c (List.mem_of_mem_head? hc))) hwhole.ne_nil
    (all_isDigit_zeros 1) (by simp) hrest
  have hvalue : Text.natValue (ds ++ List.replicate k 48 ++ [48]) =
      Text.natValue ds * 10 ^ (k + 1) := by
    have h := natValue_append_zeros ds (k + 1)
    rwa [List.replicate_succ', ← List.append_assoc] at h
  have hrank := Decimal.rank_mul_pow (Text.natValue ds) (k + 1) k
  have hlength : (k : Int) - (k + 1 : Nat) = -(([48] : Text).length : Nat) := by
    rw [List.length_singleton]
    omega
  rw [hlength] at hrank
  rw [hvalue, hrank] at hread
  simpa only [List.append_assoc, List.cons_append] using hread

/-- The point among the digits. -/
theorem readNumber_amongDigits (hds : IsLeading ds) (hrest : EndsNumber rest) {k : Nat}
    (hk : 0 < k) (hlt : k < ds.length) :
    readNumber (Decimal.signText negative false ++ (ds.take k ++ 46 :: ds.drop k ++ rest)) =
      .ok (.double (.ofRank negative
        (⟨Text.natValue ds, (k : Int) - ds.length⟩ : Decimal).rank), rest) := by
  have hwhole : IsLeading (ds.take k) := hds.take hk
  have hread := readNumber_point negative _ _ (fun r hr => cutWhole_leading hwhole hr)
    (fun c hc => ne_minus_of_isDigit (hwhole.1 c (List.mem_of_mem_head? hc))) hwhole.ne_nil
    (fun c hc => hds.1 c (List.mem_of_mem_drop hc)) (by simp; omega) hrest
  rw [List.take_append_drop, List.length_drop,
    show -((ds.length - k : Nat) : Int) = k - ds.length by omega] at hread
  simpa only [List.append_assoc, List.cons_append] using hread

/-- One digit in front of the point, and an exponent. -/
theorem readNumber_scientific (hds : IsLeading ds) (hrest : EndsNumber rest) (x : Int) :
    readNumber (Decimal.signText negative false ++
        ((ds.take 1 ++ if ds.length = 1 then [] else 46 :: ds.drop 1) ++
          Decimal.exponentText x ++ rest)) =
      .ok (.double (.ofRank negative
        (⟨Text.natValue ds, x - (ds.length - 1)⟩ : Decimal).rank), rest) := by
  have hpos : 0 < ds.length := List.length_pos_iff.mpr hds.ne_nil
  have hread := readNumber_exponent negative (ds.drop 1) x
    (hds.take (k := 1) (by decide)) (fun c hc => hds.1 c (List.mem_of_mem_drop hc)) hrest
  have hone : ds.drop 1 = [] ↔ ds.length = 1 := by
    rw [List.drop_eq_nil_iff]
    omega
  rw [List.take_append_drop, List.length_drop,
    show ((ds.length - 1 : Nat) : Int) = ds.length - 1 by omega] at hread
  simpa only [hone, List.append_assoc] using hread

end Layouts

/-- The plain layout of a decimal is read as a double of the same rank. -/
theorem readNumber_decimal (negative : Bool) {d : Decimal} (hd : d.digits ≠ 0) {rest : Text}
    (hrest : EndsNumber rest) :
    readNumber (Decimal.signText negative false ++ (d.plain ++ rest)) =
      .ok (.double (.ofRank negative d.rank), rest) := by
  obtain ⟨n, e⟩ := d
  have hds := isLeading_ofNat hd
  have hvalue := Text.natValue_ofNat n
  unfold Decimal.plain
  generalize Text.ofNat n = ds at hds hvalue
  subst hvalue
  simp only
  split
  · split
    · next hpoint =>
      rw [readNumber_belowPoint negative hds hrest]
      rw [show -(((-((ds.length : Int) + e)).toNat : Int) + ds.length) = e by omega]
    · by_cases hlen : ds.length ≤ ((ds.length : Int) + e).toNat
      · have hzeros : ((ds.length : Int) + e).toNat - ds.length = e.toNat := by omega
        have hread := readNumber_abovePoint negative hds hrest e.toNat
        rw [show (e.toNat : Int) = e by omega] at hread
        simpa [List.take_of_length_le hlen, List.drop_of_length_le hlen, hzeros] using hread
      · have hzeros : ((ds.length : Int) + e).toNat - ds.length = 0 := by omega
        have hread := readNumber_amongDigits negative hds hrest
          (k := ((ds.length : Int) + e).toNat) (by omega) (by omega)
        rw [show (((ds.length : Int) + e).toNat : Int) - ds.length = e by omega] at hread
        have hfraction : (ds.drop ((ds.length : Int) + e).toNat).isEmpty = false := by
          simp
          omega
        simpa [hfraction, hzeros] using hread
  · rw [readNumber_scientific negative hds hrest]
    rw [show (ds.length : Int) + e - 1 - (ds.length - 1) = e by omega]

/-- A finite double reads back. -/
theorem readNumber_plain {d : Double} (hd : d.isFinite = true) {rest : Text}
    (hrest : EndsNumber rest) : readNumber (d.plain ++ rest) = .ok (.double d, rest) := by
  cases d with
  | nan => cases hd
  | number negative r =>
    have hfinite : r.val ≠ infinityRank := by simpa [Double.isFinite] using hd
    have hlt : r.val < infinityRank := by
      have := r.isLt
      omega
    simp only [Double.plain, Double.plainMagnitude, hfinite, ↓reduceIte, List.append_assoc]
    split
    · next hzero =>
      have hread := readNumber_point negative [48] _ (fun r _ => cutWhole_zero r)
        (fun c hc => by cases hc; decide) (by simp) (all_isDigit_zeros 1) (by simp) hrest
      have hrank : (⟨Text.natValue ([48] ++ List.replicate 1 48),
          -((List.replicate 1 48).length : Int)⟩ : Decimal).rank = r.val := by
        rw [hzero]
        rfl
      rw [hrank, Double.ofRank_val] at hread
      exact hread
    · next hzero =>
      rw [readNumber_decimal negative (Decimal.shortest_digits hzero hlt) hrest,
        Decimal.shortest_rank hzero hlt, Double.ofRank_val]

end ProofLedger.Json
