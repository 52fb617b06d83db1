import ProofLedger.Proofs.Run.Answer

/-!
# Objects and their octets

The data of an object is the digits of its octets, or these digits with a line feed behind them
(`isHexField_iff`); there is no third spelling. `octets_faithful` says what follows. A tag and
octets make an object that has them, whatever they are. An object is made of its own tag and octets
unless a line feed ends its data, and so two objects with one tag and the same octets are equal,
or one of them has such a line feed and the other has not (`Trails`).

A line feed that is in the data stays there, and nothing here says that it should:
`octets_faithful_broken` is an object that its own octets do not make.
-/

namespace ProofLedger

/-! ## The language of digits -/

namespace Text.Hex

/-- Every digit is written for some number below sixteen. -/
theorem exists_of_isHexDigit {c : Nat} (h : isHexDigit c = true) :
    ∃ n < 16, Utf8.hexDigit n = c := by
  simp only [isHexDigit, isDigit, Bool.or_eq_true, Bool.and_eq_true, decide_eq_true_eq] at h
  rcases h with hdecimal | hletter
  · refine ⟨c - 48, by omega, ?_⟩
    rw [Utf8.hexDigit, if_pos (by omega)]
    omega
  · refine ⟨c - 87, by omega, ?_⟩
    rw [Utf8.hexDigit, if_neg (by omega)]
    omega

theorem encodeByte_ofNat {m n : Nat} (hm : m < 16) (hn : n < 16) :
    encodeByte (.ofNat (m * 16 + n)) = [Utf8.hexDigit m, Utf8.hexDigit n] := by
  have hvalue : (UInt8.ofNat (m * 16 + n)).toNat = m * 16 + n := by
    rw [UInt8.toNat_ofNat', Nat.mod_eq_of_lt (by omega)]
  have hhigh : (m * 16 + n) / 16 = m := by omega
  have hlow : (m * 16 + n) % 16 = n := by omega
  rw [encodeByte, hvalue, hhigh, hlow]

/-- Hexadecimal text is what octets are written as, and nothing else. -/
theorem isHexText_iff {t : Text} : isHexText t = true ↔ ∃ bytes, t = encode bytes := by
  constructor
  · intro h
    fun_induction isHexText t with
    | case1 => exact ⟨[], rfl⟩
    | case2 a b r ih =>
      simp only [Bool.and_eq_true] at h
      obtain ⟨m, hm, rfl⟩ := exists_of_isHexDigit h.1.1
      obtain ⟨n, hn, rfl⟩ := exists_of_isHexDigit h.1.2
      obtain ⟨bytes, rfl⟩ := ih h.2
      refine ⟨.ofNat (m * 16 + n) :: bytes, ?_⟩
      show _ = encodeByte (.ofNat (m * 16 + n)) ++ encode bytes
      rw [encodeByte_ofNat hm hn]
      rfl
    | case3 a => cases h
  · rintro ⟨bytes, rfl⟩
    exact isHexText_encode bytes

/-- No line feed is the last of the digits. -/
theorem getLast?_encode_ne (bytes : Bytes) : (encode bytes).getLast? ≠ some 10 := by
  intro h
  have hkept : 10 ∈ (encode bytes).filter (· ≠ 10) := by
    rw [filter_encode]
    exact List.mem_of_getLast? h
  exact of_decide_eq_true (List.mem_filter.mp hkept).2 rfl

end Text.Hex

open Text.Hex

theorem isHexField_line (bytes : Bytes) : isHexField (encode bytes ++ [10]) = true := by
  simp [isHexField, isHexText_encode]

/-- What the data of an object may be: digits, or digits and a line feed. -/
theorem isHexField_iff {t : Text} :
    isHexField t = true ↔ ∃ bytes, t = encode bytes ∨ t = encode bytes ++ [10] := by
  constructor
  · intro h
    simp only [isHexField, Bool.or_eq_true, Bool.and_eq_true, beq_iff_eq] at h
    rcases h with hdigits | ⟨hline, hdigits⟩
    · obtain ⟨bytes, rfl⟩ := isHexText_iff.mp hdigits
      exact ⟨bytes, .inl rfl⟩
    · obtain ⟨bytes, hbytes⟩ := isHexText_iff.mp hdigits
      refine ⟨bytes, .inr ?_⟩
      rw [← hbytes]
      exact (List.dropLast_append_getLast? 10 hline).symm
  · rintro ⟨bytes, rfl | rfl⟩
    · exact isHexField_encode bytes
    · exact isHexField_line bytes

namespace ProofObject

/-! ## The octets of an object -/

/-- A line feed ends the data of the object. -/
def EndsLine (o : ProofObject) : Prop := o.data.val.getLast? = some 10

instance (o : ProofObject) : Decidable o.EndsLine := inferInstanceAs (Decidable (_ = _))

/-- The object is the other one but for a line feed behind its data. -/
structure Trails (o bare : ProofObject) : Prop where
  tag : o.tag = bare.tag
  data : o.data.val = bare.data.val ++ [10]

/-- The octets of an object are those that its digits were written for. -/
theorem payload_eq {o : ProofObject} {bytes : Bytes}
    (h : o.data.val = encode bytes ∨ o.data.val = encode bytes ++ [10]) : o.payload = bytes := by
  have hdigits : o.data.val.filter (· ≠ 10) = encode bytes := by
    rcases h with h | h
    · rw [h, filter_encode]
    · rw [h, List.filter_append, filter_encode]
      exact List.append_nil _
  rw [payload, hdigits, decode?_encode, Option.getD_some]

theorem data_cases (o : ProofObject) :
    o.data.val = encode o.payload ∧ ¬ o.EndsLine ∨
      o.data.val = encode o.payload ++ [10] ∧ o.EndsLine := by
  obtain ⟨bytes, h⟩ := isHexField_iff.mp o.data.property
  rw [payload_eq h, EndsLine]
  rcases h with h | h
  · rw [h]
    exact .inl ⟨rfl, getLast?_encode_ne bytes⟩
  · rw [h]
    exact .inr ⟨rfl, List.getLast?_concat⟩

/-- The object of a tag and octets. -/
def ofOctets (tag : Name) (bytes : Bytes) : ProofObject :=
  ⟨tag, ⟨encode bytes, isHexField_encode bytes⟩⟩

theorem payload_ofOctets (tag : Name) (bytes : Bytes) : (ofOctets tag bytes).payload = bytes :=
  payload_eq (.inl rfl)

/-- Any tag and octets are taken. -/
theorem ofBytes_eq (tag : Name) (bytes : Bytes) :
    ofBytes (.text tag.val) bytes = .ok (ofOctets tag bytes) :=
  build_toFields (ofOctets tag bytes)

theorem eq_of_data {o o' : ProofObject} (htag : o.tag = o'.tag)
    (hdata : o.data.val = o'.data.val) : o = o' := by
  obtain ⟨tag, data⟩ := o
  obtain ⟨tag', data'⟩ := o'
  cases htag
  exact congrArg (ProofObject.mk tag) (Subtype.ext hdata)

/-- An object is made of its tag and its octets exactly when its data is the bare digits. -/
theorem ofOctets_eq_iff (o : ProofObject) : ofOctets o.tag o.payload = o ↔ ¬ o.EndsLine := by
  rcases o.data_cases with ⟨hdata, hbare⟩ | ⟨hdata, hline⟩
  · exact iff_of_true (eq_of_data rfl hdata.symm) hbare
  · refine iff_of_false (fun h => ?_) (not_not_intro hline)
    rw [← h] at hline
    exact getLast?_encode_ne _ hline

theorem Trails.payload_eq {o bare : ProofObject} (h : o.Trails bare) :
    o.payload = bare.payload := by
  rw [payload, payload, h.data, List.filter_append]
  exact congrArg (fun t => (decode? t).getD []) (List.append_nil _)

/-- Objects with one tag and the same octets differ in a line feed at most. -/
theorem same_octets_iff (o o' : ProofObject) :
    o.tag = o'.tag ∧ o.payload = o'.payload ↔ o = o' ∨ o.Trails o' ∨ o'.Trails o := by
  constructor
  · rintro ⟨htag, hpayload⟩
    rcases o.data_cases with ⟨hdata, -⟩ | ⟨hdata, -⟩ <;>
      rcases o'.data_cases with ⟨hdata', -⟩ | ⟨hdata', -⟩ <;> rw [hpayload] at hdata
    · exact .inl (eq_of_data htag (hdata.trans hdata'.symm))
    · exact .inr (.inr ⟨htag.symm, by rw [hdata', hdata]⟩)
    · exact .inr (.inl ⟨htag, by rw [hdata', hdata]⟩)
    · exact .inl (eq_of_data htag (hdata.trans hdata'.symm))
  · rintro (rfl | h | h)
    · exact ⟨rfl, rfl⟩
    · exact ⟨h.tag, h.payload_eq⟩
    · exact ⟨h.tag.symm, h.payload_eq.symm⟩

/-! ## What is taken for an object -/

/-- A tag is any text but the empty one, and data is digits with at most a line feed. -/
theorem exists_build_iff (tag t : Text) :
    (∃ o, build [(("type" : Text), .text tag), (("data" : Text), .text t)] = .ok o) ↔
      (tag.Scalar ∧ tag ≠ []) ∧ ∃ bytes, t = encode bytes ∨ t = encode bytes ++ [10] := by
  rw [← isHexField_iff]
  constructor
  · rintro ⟨o, h⟩
    obtain ⟨p, hclosed, rfl⟩ := map_eq_ok (mapError_eq_ok h)
    obtain ⟨htag, hdata⟩ := Intake.both_eq_ok (Intake.closed_eq_ok hclosed)
    have hname : p.1.val = tag := Intake.name_eq_ok (Intake.required_eq_ok rfl htag)
    have hfield : p.2.val = t := checkData_eq_ok (Intake.required_eq_ok rfl hdata)
    rw [← hname, ← hfield]
    exact ⟨p.1.property, p.2.property⟩
  · rintro ⟨htag, ht⟩
    let o : ProofObject := ⟨⟨tag, htag⟩, ⟨t, ht⟩⟩
    exact ⟨o, build_toFields o⟩

/-- A tag and a text make an object when the tag has octets and is not empty and the other text is
digits, or digits and a line feed. Such a tag and any octets make an object that has them. An
object is made of its own ones unless a line feed ends its data, and that is all by which two
objects with one tag and the same octets can differ. -/
theorem octets_faithful (tag t : Text) (bytes : Bytes) (o o' : ProofObject) :
    ((∃ made, build [(("type" : Text), .text tag), (("data" : Text), .text t)] = .ok made) ↔
        (tag.Scalar ∧ tag ≠ []) ∧ ∃ bytes, t = encode bytes ∨ t = encode bytes ++ [10]) ∧
      ((∃ made, ofBytes (.text tag) bytes = .ok made ∧ made.tag.val = tag ∧
          made.payload = bytes) ↔ tag.Scalar ∧ tag ≠ []) ∧
      (ofBytes (.text o.tag.val) o.payload = .ok o ↔ ¬ o.EndsLine) ∧
      (o.tag = o'.tag ∧ o.payload = o'.payload ↔ o = o' ∨ o.Trails o' ∨ o'.Trails o) := by
  refine ⟨exists_build_iff tag t, ⟨?_, fun htag => ?_⟩, ?_, same_octets_iff o o'⟩
  · rintro ⟨made, -, rfl, -⟩
    exact made.tag.property
  · let made := ofOctets ⟨tag, htag⟩ bytes
    exact ⟨made, ofBytes_eq made.tag bytes, rfl, payload_ofOctets made.tag bytes⟩
  · rw [ofBytes_eq, Except.ok.injEq]
    exact o.ofOctets_eq_iff

/-- An object that is taken with a line feed behind its digits. Its tag and octets make another
object, although they are the same. -/
theorem octets_faithful_broken : ∃ o o' : ProofObject,
    build [(("type" : Text), .text "m-root"), (("data" : Text), .text "00\n")] = .ok o ∧
      ofBytes (.text o.tag.val) o.payload = .ok o' ∧ o'.tag = o.tag ∧ o'.payload = o.payload ∧
      o' ≠ o := by
  let o : ProofObject := ⟨⟨"m-root", by decide⟩, ⟨"00\n", by decide⟩⟩
  refine ⟨o, ofOctets o.tag o.payload, build_toFields o, ofBytes_eq o.tag o.payload, rfl,
    payload_ofOctets o.tag o.payload, fun h => ?_⟩
  exact o.ofOctets_eq_iff.mp h (by decide)

end ProofObject

end ProofLedger
