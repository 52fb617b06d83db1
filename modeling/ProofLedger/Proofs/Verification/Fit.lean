import ProofLedger.Capture
import ProofLedger.Proofs.Outcome
import ProofLedger.Proofs.Shape
import ProofLedger.Reference
import ProofLedger.Verification.Runner

/-!
# Whether objects fit a shape

`fit_decides`: objects pass when the shape fits them, and then only; else the first thing that is
wrong is told, with its code, and in another order of the objects the code is the same.

The one exception are numbers that no numeral holds. A shape may ask for so many objects that the
message on it cannot be made; nothing is told then but that (`Fit.untold`), although the objects do
not fit. A shape whose numbers can all be shown never comes to that (`fit_of_showable`).
-/

namespace ProofLedger.Verification

open ProofShape

/-- The code of the first thing that is wrong with objects. -/
inductive Misfits (s : ProofShape) (os : List ProofObject) : ErrorCode → Prop
  | total (wrong : ¬ s.HasTotal os) : Misfits s os .cardinalityMismatch
  | counts (total : s.HasTotal os) (wrong : ¬ s.HasCounts os) : Misfits s os .missingSubstructure
  | uniform (total : s.HasTotal os) (counts : s.HasCounts os)
      (wrong : ¬ ∀ tag ∈ s.uniformTags, Uniform os tag) : Misfits s os .inconsistentSubstructure

/-- Some code stands for what is wrong, unless the objects fit. -/
theorem exists_misfits_iff (s : ProofShape) (os : List ProofObject) :
    (∃ code, Misfits s os code) ↔ ¬ s.Fits os := by
  constructor
  · rintro ⟨code, h⟩ hfits
    cases h with
    | total wrong => exact wrong hfits.total
    | counts total wrong => exact wrong hfits.counts
    | uniform total counts wrong => exact wrong hfits.uniform
  · intro h
    by_cases total : s.HasTotal os
    · by_cases counts : s.HasCounts os
      · exact ⟨_, .uniform total counts fun uniform => h ⟨total, counts, uniform⟩⟩
      · exact ⟨_, .counts total counts⟩
    · exact ⟨_, .total total⟩

/-- Only one thing is wrong first. -/
theorem Misfits.unique {s : ProofShape} {os : List ProofObject} {code code' : ErrorCode}
    (h : Misfits s os code) (h' : Misfits s os code') : code = code' := by
  cases h with
  | total wrong =>
    cases h' with
    | total => rfl
    | counts total => exact absurd total wrong
    | uniform total => exact absurd total wrong
  | counts total wrong =>
    cases h' with
    | total wrong' => exact absurd total wrong'
    | counts => rfl
    | uniform _ counts => exact absurd counts wrong
  | uniform total counts wrong =>
    cases h' with
    | total wrong' => exact absurd total wrong'
    | counts _ wrong' => exact absurd counts wrong'
    | uniform => rfl

/-- An object is a deviant only where its tag is not uniform. -/
theorem not_uniform_of_firstDeviant {os : List ProofObject} {tag : Text} {index : Nat}
    (h : FirstDeviant os tag index) : ¬ Uniform os tag := by
  obtain ⟨first, o, hfirst, ho, htag, hdata, -⟩ := h
  have hfirstTag : first.tag.val = tag := by simpa using List.find?_some hfirst
  exact fun huniform => hdata (huniform o (List.mem_of_getElem? ho) first
    (List.mem_of_find?_eq_some hfirst) htag hfirstTag)

/-- What is told carries the code of what is wrong. -/
theorem misfits_of_firstMismatch {s : ProofShape} {os : List ProofObject} {m : ShapeMismatch}
    (h : s.FirstMismatch os m) : Misfits s os (Mismatch.shape m).code := by
  cases h with
  | cardinality asked wrong => exact .total fun total => wrong (total _ asked)
  | tagCount total required wrong least =>
    exact .counts total fun counts => wrong (counts _ required)
  | inconsistent total counts listed uniform deviant =>
    refine .uniform total counts fun every => not_uniform_of_firstDeviant deviant (every _ ?_)
    rw [listed]
    exact List.mem_append_right _ List.mem_cons_self

/-! ## Making sure -/

theorem fit_eq_ok_iff (s : ProofShape) (os : List ProofObject) :
    fit s os = .ok () ↔ s.Fits os := by
  rw [← check_eq_ok_iff]
  exact ⟨mapError_eq_ok, fun h => by rw [fit, h, mapError_ok]⟩

/-- A failure comes from the first thing that is wrong. -/
theorem firstMismatch_of_fit {s : ProofShape} {os : List ProofObject} {f : Failure}
    (h : fit s os = .error f) : ∃ m, s.FirstMismatch os m ∧ .ofShapeMismatch m = f := by
  obtain ⟨m, hm, hf⟩ := mapError_eq_error h
  exact ⟨m, firstMismatch_of_check hm, hf⟩

/-- Where all numbers of the shape can be shown, the first thing that is wrong is told. -/
theorem fit_of_showable {s : ProofShape} (hs : s.Showable) (os : List ProofObject) :
    fit s os = .ok () ∧ s.Fits os ∨
      ∃ m, fit s os = .error (.ledger (.mismatch (.shape m))) ∧ s.FirstMismatch os m := by
  cases hfit : fit s os with
  | ok u => exact .inl ⟨rfl, (fit_eq_ok_iff s os).mp hfit⟩
  | error f =>
    obtain ⟨m, hm, rfl⟩ := firstMismatch_of_fit hfit
    exact .inr ⟨m, by rw [Failure.ofShapeMismatch, if_pos (hm.isShowable hs)], hm⟩

/-- In another order the objects pass or fail alike, and with the same code. -/
theorem code_fit_perm {os os' : List ProofObject} (h : os.Perm os') (s : ProofShape) :
    (fit s os).mapError Capture.codeOf = (fit s os').mapError Capture.codeOf := by
  rcases check_perm h s with hsame | ⟨tag, tag', index, index', hcheck, hcheck'⟩
  · rw [fit, hsame, fit]
  · rw [fit, hcheck, fit, hcheck']
    rfl

/-- Objects pass exactly the shapes that fit them. A failure tells the first thing that is wrong,
with its code, as long as the number that was asked for can be shown; and neither passing nor the
code depends on the order of the objects. -/
theorem fit_decides (s : ProofShape) (os : List ProofObject) :
    (fit s os = .ok () ↔ s.HasTotal os ∧ s.HasCounts os ∧ ∀ tag ∈ s.uniformTags, Uniform os tag) ∧
    (∀ f, fit s os = .error f → ∃ m, s.FirstMismatch os m ∧ Misfits s os (Mismatch.shape m).code ∧
      (m.isShowable = true → f = .ledger (.mismatch (.shape m))) ∧
      (m.isShowable = false → f = .fault .longInteger)) ∧
    (s.Showable → ∀ f, fit s os = .error f →
      ∃ m, s.FirstMismatch os m ∧ f = .ledger (.mismatch (.shape m))) ∧
    ∀ os', os.Perm os' →
      (fit s os).mapError Capture.codeOf = (fit s os').mapError Capture.codeOf := by
  refine ⟨?_, fun f hf => ?_, fun hs f hf => ?_, fun os' hperm => code_fit_perm hperm s⟩
  · rw [fit_eq_ok_iff]
    exact ⟨fun h => ⟨h.total, h.counts, h.uniform⟩, fun ⟨ht, hc, hu⟩ => ⟨ht, hc, hu⟩⟩
  · obtain ⟨m, hm, rfl⟩ := firstMismatch_of_fit hf
    refine ⟨m, hm, misfits_of_firstMismatch hm, fun hshown => ?_, fun hshown => ?_⟩
    · rw [Failure.ofShapeMismatch, if_pos hshown]
    · rw [Failure.ofShapeMismatch, if_neg (Bool.eq_false_iff.mp hshown)]
  · rcases fit_of_showable hs os with ⟨hok, -⟩ | ⟨m, hm, hfirst⟩
    · cases hok.symm.trans hf
    · exact ⟨m, hfirst, Except.error.inj (hf.symm.trans hm)⟩

/-- A wrong total that cannot be shown is not told. -/
theorem fit_of_vast {s : ProofShape} {os : List ProofObject} {n : Nat}
    (asked : s.totalObjects = some n) (wrong : n ≠ os.length) (hn : Number.fits n = false) :
    fit s os = .error (.fault .longInteger) := by
  have hcheck : s.check os = .error (.cardinality n os.length) := by
    simp only [check, asked, Option.filter_some, wrong, ne_eq, not_false_eq_true, decide_true,
      if_true]
  have hshown : ¬ (ShapeMismatch.cardinality n os.length).isShowable = true := by
    simp only [ShapeMismatch.isShowable, hn, Bool.false_eq_true, not_false_eq_true]
  rw [fit, hcheck, Except.mapError, Failure.ofShapeMismatch, if_neg hshown]

/-- A proof of the greatest length that has a numeral has more objects than any numeral says, so it
is not told that a single object is too few. -/
theorem fit_untold : Number.fits ((10 ^ Number.maxDigits - 1 : Nat) : Int) = true ∧
    ¬ (Reference.shape (10 ^ Number.maxDigits - 1)).HasTotal
      [Reference.object Reference.merkleRoot [0, 255]] ∧
    fit (Reference.shape (10 ^ Number.maxDigits - 1))
      [Reference.object Reference.merkleRoot [0, 255]] = .error (.fault .longInteger) := by
  have hpos : 0 < 10 ^ Number.maxDigits := Nat.pow_pos (by decide)
  have hfits (n : Nat) : Number.fits n = decide (n < 10 ^ Number.maxDigits) := rfl
  generalize 10 ^ Number.maxDigits = bound at hpos hfits
  have hwrong : 2 * (bound - 1) + Reference.rootCount + 2 ≠ 1 := by omega
  refine ⟨?_, fun htotal => hwrong (htotal _ rfl), fit_of_vast rfl hwrong ?_⟩
  · rw [hfits]
    exact decide_eq_true (by omega)
  · rw [hfits]
    exact decide_eq_false (by omega)

end ProofLedger.Verification
