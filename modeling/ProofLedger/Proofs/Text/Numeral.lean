import ProofLedger.Number.Reading

/-!
# Numerals read back

`natValue_ofNat`: the decimal digits of a number spell that number. Around it stand the
facts that readers of numerals need: the digits are digits (`all_isDigit_ofNat`), the first
of them is a zero only for zero (`head_ofNat`), and there are no more of them than the size
of the number asks for (`length_ofNat_le_iff`).
-/

namespace ProofLedger.Text

/-! ## Values of digits -/

theorem foldl_digits (t : Text) (n : Nat) :
    t.foldl (fun n c => 10 * n + (c - 48)) n = n * 10 ^ t.length + natValue t := by
  induction t generalizing n with
  | nil => simp [natValue]
  | cons c r ih =>
    have h₀ := ih (c - 48)
    have h₁ := ih (10 * n + (c - 48))
    simp only [natValue, List.foldl_cons, Nat.mul_zero, Nat.zero_add] at h₀ h₁ ⊢
    rw [h₁, h₀, List.length_cons, Nat.pow_succ]
    grind

/-- The value of digits in a row: those in front count for as many powers of ten as
digits follow. -/
theorem natValue_append (a b : Text) :
    natValue (a ++ b) = natValue a * 10 ^ b.length + natValue b := by
  rw [natValue, List.foldl_append, foldl_digits]
  rfl

theorem natValue_zeros (k : Nat) : natValue (List.replicate k 48) = 0 := by
  induction k with
  | zero => rfl
  | succ k ih =>
    have h := natValue_append [48] (List.replicate k 48)
    simp only [List.singleton_append, ih] at h
    simpa [List.replicate_succ, natValue] using h

/-- So many digits spell a number below that power of ten. -/
theorem natValue_lt {t : Text} (h : ∀ c ∈ t, isDigit c = true) : natValue t < 10 ^ t.length := by
  induction t with
  | nil => simp [natValue]
  | cons c r ih =>
    have hr := ih fun x hx => h x (List.mem_cons_of_mem _ hx)
    have hc := h c List.mem_cons_self
    have hsplit : natValue (c :: r) = (c - 48) * 10 ^ r.length + natValue r := by
      rw [← List.singleton_append, natValue_append]
      simp [natValue]
    have hdigit : c - 48 ≤ 9 := by
      simp only [isDigit, Bool.and_eq_true, decide_eq_true_eq] at hc
      omega
    have hhead : (c - 48) * 10 ^ r.length ≤ 9 * 10 ^ r.length := Nat.mul_le_mul_right _ hdigit
    rw [hsplit, List.length_cons, Nat.pow_succ]
    omega

/-- Zeros in front do not count. -/
theorem natValue_padLeft (width : Nat) (t : Text) : natValue (padLeft width 48 t) = natValue t := by
  rw [padLeft, natValue_append, natValue_zeros, Nat.zero_mul, Nat.zero_add]

/-! ## The digits of a number -/

theorem ofNat_lt {n : Nat} (h : n < 10) : ofNat n = [48 + n] := by
  rw [ofNat, if_pos h]

theorem ofNat_ge {n : Nat} (h : 10 ≤ n) : ofNat n = ofNat (n / 10) ++ [48 + n % 10] := by
  rw [ofNat, if_neg (by omega)]

/-- The digits of a number spell it. -/
theorem natValue_ofNat (n : Nat) : natValue (ofNat n) = n := by
  induction n using Nat.strongRecOn with
  | ind n ih =>
    by_cases h : n < 10
    · rw [ofNat_lt h]
      simp [natValue]
    · rw [ofNat_ge (by omega), natValue_append, ih (n / 10) (by omega)]
      simp only [natValue, List.foldl_cons, List.foldl_nil, List.length_singleton]
      omega

theorem ofNat_injective {m n : Nat} (h : ofNat m = ofNat n) : m = n := by
  rw [← natValue_ofNat m, h, natValue_ofNat]

theorem isDigit_add {d : Nat} (h : d < 10) : isDigit (48 + d) = true := by
  simp only [isDigit, Bool.and_eq_true, decide_eq_true_eq]
  omega

theorem all_isDigit_ofNat (n : Nat) : ∀ c ∈ ofNat n, isDigit c = true := by
  induction n using Nat.strongRecOn with
  | ind n ih =>
    intro c hc
    by_cases h : n < 10
    · rw [ofNat_lt h, List.mem_singleton] at hc
      exact hc ▸ isDigit_add h
    · rw [ofNat_ge (by omega), List.mem_append, List.mem_singleton] at hc
      rcases hc with hc | rfl
      · exact ih (n / 10) (by omega) c hc
      · exact isDigit_add (Nat.mod_lt _ (by decide))

theorem ofNat_ne_nil (n : Nat) : ofNat n ≠ [] := by
  rw [ofNat]
  split <;> simp

/-- A number other than zero has no zero in front. -/
theorem head_ofNat {n : Nat} (h : n ≠ 0) : ∃ c r, ofNat n = c :: r ∧ c ≠ 48 ∧ isDigit c = true := by
  induction n using Nat.strongRecOn with
  | ind n ih =>
    by_cases hn : n < 10
    · exact ⟨48 + n, [], ofNat_lt hn, by omega, isDigit_add hn⟩
    · obtain ⟨c, r, hr, hc, hd⟩ := ih (n / 10) (by omega) (by omega)
      exact ⟨c, r ++ [48 + n % 10], by rw [ofNat_ge (by omega), hr]; rfl, hc, hd⟩

/-- How many digits a number has. -/
theorem length_ofNat_le_iff (n : Nat) {k : Nat} (hk : 0 < k) :
    (ofNat n).length ≤ k ↔ n < 10 ^ k := by
  induction k generalizing n with
  | zero => omega
  | succ k ih =>
    by_cases hn : n < 10
    · rw [ofNat_lt hn]
      have h10 : 10 ^ 1 ≤ 10 ^ (k + 1) := Nat.pow_le_pow_right (by decide) (by omega)
      simp only [List.length_singleton]
      omega
    · rw [ofNat_ge (by omega), List.length_append, List.length_singleton]
      rcases Nat.eq_zero_or_pos k with rfl | hpos
      · have hlen := List.length_pos_iff.mpr (ofNat_ne_nil (n / 10))
        omega
      · have h := ih (n / 10) hpos
        rw [Nat.pow_succ]
        omega

theorem lt_length_ofNat_iff (n : Nat) {k : Nat} (hk : 0 < k) :
    k < (ofNat n).length ↔ 10 ^ k ≤ n := by
  have h := length_ofNat_le_iff n hk
  omega

/-- A power of ten adds as many zeros. -/
theorem ofNat_mul_pow {n : Nat} (hn : n ≠ 0) (k : Nat) :
    ofNat (n * 10 ^ k) = ofNat n ++ List.replicate k 48 := by
  induction k with
  | zero => simp
  | succ k ih =>
    have hpos : 0 < n * 10 ^ k := Nat.mul_pos (by omega) (Nat.pow_pos (by decide))
    have hsplit : n * 10 ^ (k + 1) = 10 * (n * 10 ^ k) := by
      rw [Nat.pow_succ]
      grind
    rw [hsplit, ofNat_ge (by omega), Nat.mul_div_cancel_left _ (by decide), ih,
      Nat.mul_mod_right, List.append_assoc, List.replicate_succ']

/-! ## Numbers of a given width -/

theorem all_isDigit_padded (width n : Nat) : ∀ c ∈ ofNatPadded width n, isDigit c = true := by
  intro c hc
  rcases List.mem_append.mp hc with hc | hc
  · rw [(List.mem_replicate.mp hc).2]
    rfl
  · exact all_isDigit_ofNat n c hc

theorem ofNatPadded_ne_nil (width n : Nat) : ofNatPadded width n ≠ [] := by
  simp [ofNatPadded, padLeft, ofNat_ne_nil]

theorem natValue_ofNatPadded (width n : Nat) : natValue (ofNatPadded width n) = n := by
  rw [ofNatPadded, natValue_padLeft, natValue_ofNat]

theorem ofNatPadded_injective {width m n : Nat} (h : ofNatPadded width m = ofNatPadded width n) :
    m = n := by
  rw [← natValue_ofNatPadded width m, h, natValue_ofNatPadded]

theorem length_ofNatPadded {width n : Nat} (hwidth : 0 < width) (h : n < 10 ^ width) :
    (ofNatPadded width n).length = width := by
  have hle := (length_ofNat_le_iff n hwidth).mpr h
  rw [ofNatPadded, padLeft, List.length_append, List.length_replicate]
  omega

/-! ## Cutting digits off -/

/-- What follows a run of digits: anything that is no digit. -/
def EndsDigits (t : Text) : Prop := ∀ c ∈ t.head?, isDigit c = false

theorem endsDigits_cons {c : Nat} {r : Text} (h : isDigit c = false) : EndsDigits (c :: r) :=
  fun _ hx => Option.some.inj hx ▸ h

/-- A run of digits is cut off whole. -/
theorem cutDigits_append {ds rest : Text} (hds : ∀ c ∈ ds, isDigit c = true)
    (hrest : EndsDigits rest) : Number.cutDigits (ds ++ rest) = (ds, rest) := by
  have htake : rest.takeWhile isDigit = [] ∧ rest.dropWhile isDigit = rest := by
    cases rest with
    | nil => exact ⟨rfl, rfl⟩
    | cons c r =>
      have hc : isDigit c = false := hrest c rfl
      exact ⟨by simp [hc], by simp [hc]⟩
  simp only [Number.cutDigits, List.takeWhile_append_of_pos hds, List.dropWhile_append_of_pos hds,
    htake.1, htake.2, List.append_nil]

end ProofLedger.Text
