import ProofLedger.Text.Utf8

/-!
# Encoded text reads back

`decode_encode`: the eight-bit form of a text is read as that text, strictly when the
text holds no lone surrogate and leniently whatever it holds. The proof goes code point
by code point: `decodePoint_encodePoint` says that the reader takes exactly the octets
that one code point was written in, whatever follows them. `encode_of_decode` is the way
back: octets that are read strictly are the eight-bit form of what is read, since what the
strict reader takes at a time is a `Form`.
-/

namespace ProofLedger.Text.Utf8

/-- A code point that a reader takes: a surrogate only if it may pass. -/
def Readable (passSurrogates : Bool) (c : Nat) : Prop :=
  c < 0x110000 ∧ (passSurrogates = true ∨ isSurrogate c = false)

/-! ## One octet -/

theorem octet_toNat {n : Nat} (h : n < 256) : (UInt8.ofNat n).toNat = n := by
  simp only [UInt8.toNat_ofNat']
  omega

theorem isTail_ofNat (n : Nat) : isTail (.ofNat (0x80 + n % 64)) = true := by
  have h := octet_toNat (n := 0x80 + n % 64) (by omega)
  simp only [isTail, h, Bool.and_eq_true, decide_eq_true_eq]
  omega

theorem tailValue_ofNat (high n : Nat) :
    tailValue high (.ofNat (0x80 + n % 64)) = high * 64 + n % 64 := by
  unfold tailValue
  rw [octet_toNat (by omega), Nat.add_sub_cancel_left]

theorem isSecond_ofNat (pass : Bool) (lead : Nat) {n : Nat} (h : n < 256) :
    isSecond pass lead (.ofNat n) = true ↔
      (secondBounds pass lead).1 ≤ n ∧ n ≤ (secondBounds pass lead).2 := by
  simp only [isSecond, octet_toNat h, Bool.and_eq_true, decide_eq_true_eq]

/-! ## One code point -/

/-- The reader takes the octets of one code point and leaves what follows them. -/
theorem decodePoint_encodePoint {pass : Bool} {c : Nat} (hc : Readable pass c) (rest : Bytes) :
    decodePoint pass (encodePoint c ++ rest) = .ok (c, rest) := by
  obtain ⟨hlt, hs⟩ := hc
  have hs' : pass = true ∨ c < 0xD800 ∨ 0xDFFF < c := by
    rcases hs with h | h
    · exact .inl h
    · simp only [isSurrogate, Bool.and_eq_false_iff, decide_eq_false_iff_not] at h
      omega
  unfold encodePoint
  -- one case for each length of the form, as the lead octet decides
  split
  · next h1 =>
    have hlead := octet_toNat (n := c) (by omega)
    simp only [List.cons_append, List.nil_append, decodePoint, hlead, h1, ↓reduceIte]
  split
  · next h1 h2 =>
    have hlead := octet_toNat (n := 0xC0 + c / 64) (by omega)
    have hsecond : isSecond pass (0xC0 + c / 64) (.ofNat (0x80 + c % 64)) = true := by
      rw [isSecond_ofNat _ _ (by omega)]
      unfold secondBounds
      grind
    simp only [List.cons_append, List.nil_append, decodePoint, hlead, hsecond, tailValue_ofNat]
    grind
  split
  · next h1 h2 h3 =>
    have hlead := octet_toNat (n := 0xE0 + c / 4096) (by omega)
    have hsecond : isSecond pass (0xE0 + c / 4096) (.ofNat (0x80 + c / 64 % 64)) = true := by
      rw [isSecond_ofNat _ _ (by omega)]
      unfold secondBounds
      grind
    simp only [List.cons_append, List.nil_append, decodePoint, hlead, hsecond, isTail_ofNat,
      tailValue_ofNat]
    grind
  · next h1 h2 h3 =>
    have hlead := octet_toNat (n := 0xF0 + c / 262144) (by omega)
    have hsecond : isSecond pass (0xF0 + c / 262144) (.ofNat (0x80 + c / 4096 % 64)) = true := by
      rw [isSecond_ofNat _ _ (by omega)]
      unfold secondBounds
      grind
    simp only [List.cons_append, List.nil_append, decodePoint, hlead, hsecond, isTail_ofNat,
      tailValue_ofNat]
    grind

theorem encodePoint_ne_nil (c : Nat) : encodePoint c ≠ [] := by
  unfold encodePoint
  repeat' split
  all_goals simp

theorem length_le_encode (t : Text) : t.length ≤ (encode t).length := by
  induction t with
  | nil => exact Nat.le_refl _
  | cons c r ih =>
    have hc := List.length_pos_iff.mpr (encodePoint_ne_nil c)
    simp only [encode, List.flatMap_cons, List.length_append, List.length_cons] at ih ⊢
    omega

/-! ## Texts -/

theorem decodeFrom_encode {pass : Bool} (t : Text) (ht : ∀ c ∈ t, Readable pass c) :
    ∀ (fuel position : Nat) (done : Text), t.length ≤ fuel →
      decodeFrom pass fuel position (encode t) done = .ok (done.reverse ++ t) := by
  induction t with
  | nil =>
    intro fuel position done _
    cases fuel <;> simp [encode, decodeFrom]
  | cons c r ih =>
    intro fuel position done hfuel
    cases fuel with
    | zero => simp at hfuel
    | succ fuel =>
      have hpoint := decodePoint_encodePoint (ht c List.mem_cons_self) (encode r)
      have hrest := ih (fun x hx => ht x (List.mem_cons_of_mem _ hx)) fuel
        (position + (encodePoint c).length) (c :: done) (by simpa using hfuel)
      have hsplit : encode (c :: r) = encodePoint c ++ encode r := List.flatMap_cons
      -- the reader matches on the first octet, so the form has to show one
      cases hform : encodePoint c with
      | nil => exact absurd hform (encodePoint_ne_nil c)
      | cons b tail =>
        rw [hform, List.cons_append] at hpoint
        rw [hsplit, hform, List.cons_append, decodeFrom, hpoint]
        simp only [hrest, List.reverse_cons, List.append_assoc, List.cons_append, List.nil_append]

/-- Encoded text reads back. -/
theorem decode_encode {pass : Bool} {t : Text} (ht : ∀ c ∈ t, Readable pass c) :
    decode pass (encode t) = .ok t := by
  unfold decode
  rw [decodeFrom_encode t ht _ _ _ (length_le_encode t), List.reverse_nil, List.nil_append]

/-- A text that has octets reads back from them, strictly or not. -/
theorem decode_of_scalar {t : Text} (ht : t.Scalar) (pass : Bool) :
    decode pass (encode t) = .ok t := by
  refine decode_encode fun c hc => ?_
  have h := List.all_eq_true.mp ht c hc
  simp only [isScalar, Bool.and_eq_true, decide_eq_true_eq, Bool.not_eq_true'] at h
  exact ⟨h.1, .inr h.2⟩

/-! ## Texts of small code points -/

/-- The scalar values are the code points below the surrogates and above them. -/
theorem isScalar_iff {c : Nat} :
    isScalar c = true ↔ c < 0xD800 ∨ 0xDFFF < c ∧ c < 0x110000 := by
  simp only [isScalar, isSurrogate, Bool.and_eq_true, decide_eq_true_eq, Bool.not_eq_true',
    Bool.and_eq_false_iff, decide_eq_false_iff_not]
  omega

theorem isScalar_of_lt {c : Nat} (h : c < 0xD800) : isScalar c = true := isScalar_iff.mpr (.inl h)

theorem scalar_of_lt {t : Text} (h : ∀ c ∈ t, c < 0xD800) : t.Scalar :=
  List.all_eq_true.mpr fun c hc => isScalar_of_lt (h c hc)

/-- The octets of an ASCII text are its code points. -/
theorem encode_of_lt {t : Text} (h : ∀ c ∈ t, c < 0x80) : (encode t).map UInt8.toNat = t := by
  induction t with
  | nil => rfl
  | cons c r ih =>
    have hc := h c List.mem_cons_self
    have hpoint : encodePoint c = [.ofNat c] := if_pos hc
    have hrest := ih fun x hx => h x (List.mem_cons_of_mem _ hx)
    rw [encode, List.flatMap_cons, hpoint, List.map_append, ← encode, hrest, List.map_singleton,
      octet_toNat (Nat.lt_trans hc (by decide)), List.singleton_append]

/-! ## Back to octets -/

theorem ofNat_eq_of_toNat {n : Nat} {b : UInt8} (h : n = b.toNat) : UInt8.ofNat n = b := by
  rw [h, UInt8.ofNat_toNat]

theorem bounds_of_isTail {b : UInt8} (h : isTail b = true) : 0x80 ≤ b.toNat ∧ b.toNat ≤ 0xBF := by
  simpa [isTail] using h

/-- What the strict reader asks of a second octet: a tail, and more after four of the leads. -/
theorem bounds_of_isSecond {lead : Nat} {b : UInt8} (h : isSecond false lead b = true) :
    (0x80 ≤ b.toNat ∧ b.toNat ≤ 0xBF) ∧ (lead = 0xE0 → 0xA0 ≤ b.toNat) ∧
      (lead = 0xED → b.toNat ≤ 0x9F) ∧ (lead = 0xF0 → 0x90 ≤ b.toNat) ∧
      (lead = 0xF4 → b.toNat ≤ 0x8F) := by
  simp only [isSecond, secondBounds, Bool.not_false, Bool.and_true, Bool.and_eq_true,
    decide_eq_true_eq] at h
  grind

/-- The forms that the strict reader takes, each with its code point. -/
inductive Form : Bytes → Nat → Prop
  | one {b₁ : UInt8} (hlead : b₁.toNat < 0x80) : Form [b₁] b₁.toNat
  | two {b₁ b₂ : UInt8} (hlead : 0xC2 ≤ b₁.toNat ∧ b₁.toNat < 0xE0)
      (hsecond : isSecond false b₁.toNat b₂ = true) : Form [b₁, b₂] (tailValue (b₁.toNat - 0xC0) b₂)
  | three {b₁ b₂ b₃ : UInt8} (hlead : 0xE0 ≤ b₁.toNat ∧ b₁.toNat < 0xF0)
      (hsecond : isSecond false b₁.toNat b₂ = true) (hthird : isTail b₃ = true) :
      Form [b₁, b₂, b₃] (tailValue (tailValue (b₁.toNat - 0xE0) b₂) b₃)
  | four {b₁ b₂ b₃ b₄ : UInt8} (hlead : 0xF0 ≤ b₁.toNat ∧ b₁.toNat < 0xF5)
      (hsecond : isSecond false b₁.toNat b₂ = true) (hthird : isTail b₃ = true)
      (hfourth : isTail b₄ = true) :
      Form [b₁, b₂, b₃, b₄] (tailValue (tailValue (tailValue (b₁.toNat - 0xF0) b₂) b₃) b₄)

theorem exists_form {bytes rest : Bytes} {c : Nat} (h : decodePoint false bytes = .ok (c, rest)) :
    ∃ form, Form form c ∧ bytes = form ++ rest := by
  cases bytes with
  | nil => cases h
  | cons b₁ r₁ =>
    simp only [decodePoint] at h
    split at h
    · next hone =>
      cases h
      exact ⟨_, .one hone, rfl⟩
    split at h
    · cases h
    split at h
    · cases h
    cases r₁ with
    | nil => cases h
    | cons b₂ r₂ =>
      simp only at h
      split at h
      · cases h
      next hsecond =>
      split at h
      · obtain ⟨rfl, rfl⟩ := Prod.mk.inj (Except.ok.inj h)
        exact ⟨_, .two (by omega) (by simpa using hsecond), rfl⟩
      cases r₂ with
      | nil => cases h
      | cons b₃ r₃ =>
        simp only at h
        split at h
        · cases h
        next hthird =>
        split at h
        · obtain ⟨rfl, rfl⟩ := Prod.mk.inj (Except.ok.inj h)
          exact ⟨_, .three (by omega) (by simpa using hsecond) (by simpa using hthird), rfl⟩
        cases r₃ with
        | nil => cases h
        | cons b₄ r₄ =>
          simp only at h
          split at h
          · cases h
          next hfourth =>
          obtain ⟨rfl, rfl⟩ := Prod.mk.inj (Except.ok.inj h)
          exact ⟨_, .four (by omega) (by simpa using hsecond) (by simpa using hthird)
            (by simpa using hfourth), rfl⟩

/-- The code point of a form is a scalar value, and it is written in that form. -/
theorem Form.encodePoint_eq {form : Bytes} {c : Nat} (h : Form form c) :
    isScalar c = true ∧ encodePoint c = form := by
  rw [isScalar_iff]
  cases h with
  | one hlead =>
    refine ⟨by omega, ?_⟩
    rw [encodePoint, if_pos hlead, ofNat_eq_of_toNat rfl]
  | @two b₁ b₂ hlead hsecond =>
    have hb₂ := bounds_of_isSecond hsecond
    unfold tailValue
    refine ⟨by omega, ?_⟩
    rw [encodePoint, if_neg (by omega), if_pos (by omega),
      ofNat_eq_of_toNat (b := b₁) (by omega), ofNat_eq_of_toNat (b := b₂) (by omega)]
  | @three b₁ b₂ b₃ hlead hsecond hthird =>
    have hb₂ := bounds_of_isSecond hsecond
    have hb₃ := bounds_of_isTail hthird
    unfold tailValue
    refine ⟨by omega, ?_⟩
    rw [encodePoint, if_neg (by omega), if_neg (by omega), if_pos (by omega),
      ofNat_eq_of_toNat (b := b₁) (by omega), ofNat_eq_of_toNat (b := b₂) (by omega),
      ofNat_eq_of_toNat (b := b₃) (by omega)]
  | @four b₁ b₂ b₃ b₄ hlead hsecond hthird hfourth =>
    have hb₂ := bounds_of_isSecond hsecond
    have hb₃ := bounds_of_isTail hthird
    have hb₄ := bounds_of_isTail hfourth
    unfold tailValue
    refine ⟨by omega, ?_⟩
    rw [encodePoint, if_neg (by omega), if_neg (by omega), if_neg (by omega),
      ofNat_eq_of_toNat (b := b₁) (by omega), ofNat_eq_of_toNat (b := b₂) (by omega),
      ofNat_eq_of_toNat (b := b₃) (by omega), ofNat_eq_of_toNat (b := b₄) (by omega)]

theorem encode_of_decodeFrom (fuel : Nat) : ∀ (position : Nat) (bytes : Bytes) (done t : Text),
    bytes.length ≤ fuel → decodeFrom false fuel position bytes done = .ok t →
      ∃ s, t = done.reverse ++ s ∧ Text.Scalar s ∧ bytes = encode s := by
  induction fuel with
  | zero =>
    intro position bytes done t hfuel h
    obtain rfl := List.length_eq_zero_iff.mp (Nat.le_zero.mp hfuel)
    cases h
    exact ⟨[], by simp, rfl, rfl⟩
  | succ fuel ih =>
    intro position bytes done t hfuel h
    cases bytes with
    | nil =>
      cases h
      exact ⟨[], by simp, rfl, rfl⟩
    | cons b r =>
      rw [decodeFrom] at h
      split at h
      · cases h
      · next c rest hpoint =>
        obtain ⟨form, hform, hbytes⟩ := exists_form hpoint
        obtain ⟨hc, rfl⟩ := hform.encodePoint_eq
        have hpos := List.length_pos_iff.mpr (encodePoint_ne_nil c)
        have hlength := congrArg List.length hbytes
        rw [List.length_append, List.length_cons] at hlength
        rw [List.length_cons] at hfuel
        obtain ⟨s, rfl, hs, rfl⟩ := ih _ rest (c :: done) t (by omega) h
        refine ⟨c :: s, by simp, ?_, hbytes⟩
        rw [Text.Scalar, List.all_cons, hc]
        exact hs

/-- Octets that are read strictly are those of the text. -/
theorem encode_of_decode {bytes : Bytes} {t : Text} (h : decode false bytes = .ok t) :
    t.Scalar ∧ bytes = encode t := by
  obtain ⟨s, rfl, hs, rfl⟩ := encode_of_decodeFrom _ _ _ _ _ (Nat.le_refl _) h
  exact ⟨hs, rfl⟩

end ProofLedger.Text.Utf8

namespace ProofLedger.Text

theorem octets_eq_ok_iff {t : Text} {b : Bytes} :
    t.octets = .ok b ↔ t.Scalar ∧ b = Utf8.encode t := by
  unfold octets
  split
  · next h => simp [h, eq_comm]
  · next h => simp [h]

end ProofLedger.Text
