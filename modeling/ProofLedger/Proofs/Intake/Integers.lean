import Mathlib.Data.List.Forall2
import Mathlib.Data.List.TakeWhile
import ProofLedger.Proofs.Record.Accepted
import ProofLedger.Proofs.Store.Names
import ProofLedger.Proofs.Text.Numeral

/-!
# What is taken for an integer

`Reads` lists the values that are taken for an integer where one is wanted: integers, truth values,
doubles without a fraction, numerals in a text or in octets, and values of a further kind that are
worth an integer (`int_eq_ok_iff`). The digits of a number are such a numeral (`reads_digits`), so
no number is safe from being given as a text.

The lemmas before it say exactly when a model passes: when its fields do and no other entry is
there, and a list when its items do, one by one.
-/

namespace ProofLedger

namespace Intake

/-! ## When a model passes -/

section Passing

variable {α : Type}

/-- A model passes when its declared fields do and every entry is declared. -/
theorem closed_eq_ok_iff {fields : Fields} {names : List Text} {checked : Checked α} {a : α} :
    closed fields names checked = .ok a ↔
      (∀ e ∈ fields, isDeclared names e.1 = true) ∧ checked = .ok a := by
  constructor
  · intro h
    have hchecked := closed_eq_ok h
    refine ⟨?_, hchecked⟩
    rw [hchecked, closed] at h
    split at h
    · cases h
    · split at h
      · next hnone =>
        simpa only [strays, List.filter_eq_nil_iff, Bool.not_eq_true', Bool.not_eq_false]
          using hnone
      · cases h
  · rintro ⟨hdeclared, rfl⟩
    exact closed_of_declared hdeclared _

/-- A field that must be given passes when it is there and its value does. -/
theorem required_eq_ok_iff {fields : Fields} {name : Text} {check : Data → Checked α} {a : α} :
    required fields name check = .ok a ↔ ∃ d, valueAt? fields name = some d ∧ check d = .ok a := by
  refine ⟨exists_of_required, ?_⟩
  rintro ⟨d, hd, ha⟩
  exact required_of_valueAt? hd ha

theorem optional_eq_ok {fields : Fields} {name : Text} {default : α} {check : Data → Checked α}
    {d : Data} {a : α} (hd : valueAt? fields name = some d)
    (h : optional fields name default check = .ok a) : check d = .ok a := by
  rw [optional, hd] at h
  exact mapError_eq_ok h

/-- A field with only one value passes when it has this value or is not there. -/
theorem optional_literal_eq_ok_iff {fields : Fields} {name expected t : Text} :
    optional fields name expected (literal expected) = .ok t ↔
      t = expected ∧ ∀ d, valueAt? fields name = some d → d = .text expected := by
  cases hd : valueAt? fields name with
  | none =>
    rw [optional, hd, Except.ok.injEq]
    refine ⟨fun h => ⟨h.symm, fun d hvalue => ?_⟩, fun h => h.1.symm⟩
    cases hvalue
  | some d =>
    constructor
    · intro h
      have hliteral := optional_eq_ok hd h
      unfold literal at hliteral
      split at hliteral
      · next t' =>
        split at hliteral
        · next hsame =>
          cases hliteral
          exact ⟨hsame, fun d' hd' => by rw [← Option.some.inj hd', hsame]⟩
        · split at hliteral <;> cases hliteral
      · cases hliteral
    · rintro ⟨rfl, hvalue⟩
      rw [hvalue d rfl] at hd
      exact optional_of_valueAt? hd (if_pos rfl)

theorem itemsFrom_eq_ok_iff {check : Data → Checked α} {xs : List Data} {ys : List α}
    (index : Nat) :
    Checked.itemsFrom check index xs = .ok ys ↔ List.Forall₂ (check · = .ok ·) xs ys := by
  induction xs generalizing ys index with
  | nil =>
    rw [Checked.itemsFrom, List.forall₂_nil_left_iff, Except.ok.injEq]
    exact eq_comm
  | cons x xs ih =>
    rw [Checked.itemsFrom]
    constructor
    · intro h
      obtain ⟨p, hboth, rfl⟩ := map_eq_ok h
      obtain ⟨hx, hxs⟩ := both_eq_ok hboth
      exact .cons (mapError_eq_ok hx) ((ih _).mp hxs)
    · rintro (_ | ⟨hx, hxs⟩)
      rw [hx, (ih (index + 1)).mpr hxs]
      rfl

/-- A list or a tuple passes when its items do. -/
theorem sequence_eq_ok_iff {cause : Cause} {check : Data → Checked α} {d : Data} {ys : List α} :
    sequence cause check d = .ok ys ↔
      ∃ xs, (d = .list xs ∨ d = .tuple xs) ∧ List.Forall₂ (check · = .ok ·) xs ys := by
  constructor
  · intro h
    unfold sequence at h
    split at h
    · next xs => exact ⟨xs, .inl rfl, (itemsFrom_eq_ok_iff 0).mp h⟩
    · next xs => exact ⟨xs, .inr rfl, (itemsFrom_eq_ok_iff 0).mp h⟩
    · cases h
  · rintro ⟨xs, rfl | rfl, hitems⟩
    · exact (itemsFrom_eq_ok_iff 0).mpr hitems
    · exact (itemsFrom_eq_ok_iff 0).mpr hitems

end Passing

/-! ## Integers -/

/-- The values that are taken for an integer. -/
inductive Reads : Data → Int → Prop where
  | integer (n : Int) : Reads (.int n) n
  /-- A truth value counts as nought or one. -/
  | truth (b : Bool) : Reads (.bool b) (Key.ofBool b)
  | whole {x : Double} {n : Int} (hwhole : x.toInt? = some n) (hsmall : n.natAbs < 2 ^ 63) :
    Reads (.double x) n
  | text {t : Text} {n : Int} (hscalar : t.Scalar) (hnumeral : intOfText (.text t) t = .ok n) :
    Reads (.text t) n
  | octets {b : Bytes} {t : Text} {n : Int} (hdecode : Text.ofUtf8 b = .ok t)
    (hnumeral : intOfText (.bytes b) t = .ok n) : Reads (.bytes b) n
  /-- A value of another kind, when that is how it is converted. -/
  | worth (kind display : Text) (n : Int) : Reads (.other kind display (.int n)) n

/-- Each of these values is taken for its integer. -/
theorem Reads.int_eq {d : Data} {n : Int} (h : Reads d n) : int d = .ok n := by
  cases h with
  | integer n => rfl
  | truth b => rfl
  | @whole x n hwhole hsmall =>
    have hfinite : x.isFinite = true := by
      rw [Double.toInt?] at hwhole
      split at hwhole
      · next h => exact h.1
      · cases hwhole
    simp only [int, hfinite, hwhole, if_pos hsmall]
    rfl
  | text hscalar hnumeral => simp only [int, if_pos hscalar, hnumeral]
  | octets hdecode hnumeral => simp only [int, hdecode, hnumeral]
  | worth kind display n => rfl

/-- The values of the kinds that `Data` tells apart are taken for an integer in these ways only;
what comes of any further kind is the worth that the value comes with. -/
theorem int_eq_ok_iff {d : Data} {n : Int} : int d = .ok n ↔ Reads d n := by
  refine ⟨fun h => ?_, Reads.int_eq⟩
  unfold int at h
  split at h
  · cases h
    exact .integer _
  · cases h
    exact .truth _
  · split at h
    · cases h
    · split at h
      · cases h
      · next hwhole =>
        split at h
        · next hsmall =>
          cases h
          exact .whole hwhole hsmall
        · cases h
  · split at h
    · next hscalar => exact .text hscalar h
    · cases h
  · split at h
    · next hdecode => exact .octets hdecode h
    · cases h
  · next kind display worth =>
    cases worth with
    | int m =>
      cases h
      exact .worth kind display _
    | _ => cases h
  · cases h

/-! ## Digits are numerals -/

theorem not_isWhiteSpace_of_isDigit {c : Nat} (h : Text.isDigit c = true) :
    Text.isWhiteSpace c = false := by
  simp only [Text.isDigit, Bool.and_eq_true, decide_eq_true_eq] at h
  simp only [Text.isWhiteSpace, Bool.or_eq_false_iff, Bool.and_eq_false_iff, beq_eq_false_iff_ne,
    decide_eq_false_iff_not]
  omega

theorem dropUnderscores_digits {t : Text} (h : ∀ c ∈ t, Text.isDigit c = true) :
    dropUnderscores t = t := by
  have hne : ∀ c ∈ t, c ≠ 95 := by
    rintro c hc rfl
    cases h 95 hc
  rw [dropUnderscores]
  split
  · rfl
  · exact List.filter_eq_self.mpr fun c hc => decide_eq_true (hne c hc)

theorem cutAt_point_digits {t : Text} (h : ∀ c ∈ t, Text.isDigit c = true) :
    Text.cutAt 46 t = (t, none) := by
  induction t with
  | nil => rfl
  | cons c r ih =>
    have hc : c ≠ 46 := by
      rintro rfl
      cases h 46 List.mem_cons_self
    rw [Text.cutAt, if_neg hc, ih fun x hx => h x (List.mem_cons_of_mem _ hx)]

theorem dropPlus_digits {t : Text} (h : ∀ c ∈ t, Text.isDigit c = true) : dropPlus t = some t := by
  unfold dropPlus
  split
  · cases h 43 List.mem_cons_self
  · cases h 43 List.mem_cons_self
  · rfl

/-- Zero has nothing in front of its digit, and no other number starts with one. -/
theorem dropZeros_ofNat (n : Nat) : dropZeros (Text.ofNat n) = some (Text.ofNat n) := by
  by_cases hn : n = 0
  · rw [hn, Text.ofNat_lt (by decide)]
    rfl
  · obtain ⟨c, r, hcons, hc, hdigit⟩ := Text.head_ofNat hn
    rw [hcons]
    unfold dropZeros
    split
    · next heq => exact absurd (List.cons.inj heq).1 hc
    · rw [startsNumber, hdigit]
      rfl

/-- The digits of a number have nothing to lose. -/
theorem bareNumeral_ofNat (n : Nat) : bareNumeral (Text.ofNat n) = some (Text.ofNat n) := by
  have hdigits := Text.all_isDigit_ofNat n
  have htrim : (Text.ofNat n).trim = Text.ofNat n :=
    Text.stripBy_eq_self fun c hc => not_isWhiteSpace_of_isDigit (hdigits c hc)
  have hpoint : dropZeroFraction (Text.ofNat n) = Text.ofNat n := by
    rw [dropZeroFraction, cutAt_point_digits hdigits]
  rw [bareNumeral, htrim, dropPlus_digits hdigits]
  simp only [bind, Option.bind, hpoint]
  split
  · next r heq =>
    rw [heq] at hdigits
    cases hdigits 45 List.mem_cons_self
  · rw [dropZeros_ofNat]
    exact congrArg some (dropUnderscores_digits hdigits)

/-- The digits of a number that fits a numeral spell this number. -/
theorem intOfText_ofNat (d : Data) {n : Nat} (h : Number.fits n = true) :
    intOfText d (Text.ofNat n) = .ok (n : Int) := by
  have hdigits := Text.all_isDigit_ofNat n
  have hsign : cutMinus (Text.ofNat n) = (false, Text.ofNat n) := by
    unfold cutMinus
    split
    · next r heq =>
      rw [heq] at hdigits
      cases hdigits 45 List.mem_cons_self
    · rfl
  have hpadded : isPadded (Text.ofNat n) = false := by
    by_cases hn : n = 0
    · rw [hn, Text.ofNat_lt (by decide)]
      rfl
    · obtain ⟨c, r, hcons, hc, -⟩ := Text.head_ofNat hn
      rw [hcons]
      unfold isPadded
      split
      · next heq => exact absurd (List.cons.inj heq).1 hc
      · rfl
  have hshort : isLong false (Text.ofNat n) = false := by
    have hlt : n < 10 ^ Number.maxDigits := by
      rw [Number.fits, Int.natAbs_natCast] at h
      exact of_decide_eq_true h
    have hlength := (Text.length_ofNat_le_iff n (by decide)).mpr hlt
    have hsame : maxNumeral = Number.maxDigits := rfl
    rw [isLong, List.takeWhile_eq_self_iff.mpr hdigits, decide_eq_false_iff_not]
    simp only [Bool.false_eq_true, if_false]
    omega
  have hvalue : Number.natOfDigits? (Text.ofNat n) = some n := by
    have hsome : (!(Text.ofNat n).isEmpty && (Text.ofNat n).all Text.isDigit) = true := by
      simp only [Bool.and_eq_true, Bool.not_eq_true', List.isEmpty_eq_false_iff, List.all_eq_true]
      exact ⟨Text.ofNat_ne_nil n, hdigits⟩
    rw [Number.natOfDigits?, if_pos hsome, Text.natValue_ofNat]
  simp only [intOfText, bareNumeral_ofNat, hsign, hpadded, hshort, hvalue]
  rfl

/-- A number can be given as its digits, in a text or in octets. -/
theorem reads_digits {n : Nat} (h : Number.fits n = true) :
    Reads (.text (Text.ofNat n)) n ∧ Reads (.bytes (Text.Utf8.encode (Text.ofNat n))) n := by
  have hscalar : (Text.ofNat n).Scalar := List.all_eq_true.mpr fun c hc =>
    Json.isScalar_of_printable c (Json.printable_ofNat n c hc)
  exact ⟨.text hscalar (intOfText_ofNat _ h),
    .octets (Text.Utf8.decode_of_scalar hscalar false) (intOfText_ofNat _ h)⟩

end Intake

end ProofLedger
