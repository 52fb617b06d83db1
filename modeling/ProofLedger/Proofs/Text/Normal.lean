import ProofLedger.Proofs.Text.Utf8
import ProofLedger.Text.Normal.Basic

/-!
# Normal forms of writable texts

`scalar_nfc`: the composed normal form of a text that UTF-8 can write is such a text again. The
three passes are taken one by one; what a pass puts in place of a code point comes from the tables
or is a Hangul letter or syllable, and no lone surrogate is among those. Below U+0300 the normal
form changes nothing (`nfc_of_small`), which covers the keys and digits of a document.
-/

namespace ProofLedger.Text.Normal

/-! ## What the tables hold -/

theorem scalar_pairs : ∀ e ∈ pairs,
    isScalar e.1 = true ∧ isScalar e.2.1 = true ∧ isScalar e.2.2 = true := by decide +kernel

theorem scalar_oneWay : ∀ e ∈ oneWay, isScalar e.2.1 = true ∧ isScalar e.2.2 = true := by
  decide +kernel

theorem scalar_singles : ∀ run ∈ singles, ∀ c ∈ run.2, isScalar c = true := by decide +kernel

theorem isScalar_single? {c a : Nat} (h : single? c = some a) : isScalar a = true := by
  obtain ⟨run, hrun, hfound⟩ := List.exists_of_findSome?_eq_some h
  split at hfound
  · exact scalar_singles run hrun a (List.mem_of_getElem? hfound)
  · cases hfound

theorem isScalar_parts? {c a b : Nat} (h : parts? c = some (a, b)) :
    isScalar a = true ∧ isScalar b = true := by
  obtain ⟨⟨_, _⟩, hfound, rfl⟩ := Option.map_eq_some_iff.mp h
  rcases List.mem_append.mp (List.mem_of_find?_eq_some hfound) with he | he
  · exact (scalar_pairs _ he).2
  · exact scalar_oneWay _ he

theorem isSyllable_iff (c : Nat) :
    isSyllable c = true ↔ syllableBase ≤ c ∧ c < syllableBase + 11172 := by
  simp only [isSyllable, Bool.and_eq_true, decide_eq_true_eq]

theorem isScalar_joinSyllable? {a b c : Nat} (h : joinSyllable? a b = some c) :
    isScalar c = true := by
  refine Utf8.isScalar_of_lt ?_
  simp only [joinSyllable?, Bool.and_eq_true, decide_eq_true_eq, beq_iff_eq, isSyllable_iff] at h
  split at h
  · next hletters =>
    simp only [syllableBase, leadBase, vowelBase, Option.some.injEq] at h hletters
    omega
  · split at h
    · next hopen =>
      simp only [syllableBase, trailBase, Option.some.injEq] at h hopen
      omega
    · cases h

theorem isScalar_composite? {a b c : Nat} (h : composite? a b = some c) : isScalar c = true := by
  unfold composite? at h
  split at h
  · next hjoin => exact Option.some.inj h ▸ isScalar_joinSyllable? hjoin
  · obtain ⟨e, hfound, rfl⟩ := Option.map_eq_some_iff.mp h
    exact (scalar_pairs e (List.mem_of_find?_eq_some hfound)).1

/-! ## Taking apart -/

theorem scalar_syllableParts {c : Nat} (h : isSyllable c = true) : (syllableParts c).Scalar := by
  rw [isSyllable_iff, syllableBase] at h
  refine List.all_eq_true.mpr fun x hx => Utf8.isScalar_of_lt ?_
  have hparts : x = leadBase + (c - syllableBase) / 588 ∨
      x = vowelBase + (c - syllableBase) % 588 / 28 ∨
      x = trailBase + (c - syllableBase) % 28 := by
    simp only [syllableParts] at hx
    split at hx <;> simp at hx <;> omega
  simp only [leadBase, vowelBase, trailBase, syllableBase] at hparts
  omega

theorem scalar_decomposeWith (fuel : Nat) : ∀ c, isScalar c = true →
    (decomposeWith fuel c).Scalar := by
  induction fuel with
  | zero =>
    intro c hc
    simpa [Text.Scalar, decomposeWith] using hc
  | succ fuel ih =>
    intro c hc
    have hself : Text.Scalar [c] := by simpa [Text.Scalar] using hc
    unfold decomposeWith
    split
    · exact hself
    split
    · next hsyllable => exact scalar_syllableParts hsyllable
    split
    · next a hsingle => exact ih a (isScalar_single? hsingle)
    split
    · next a b hparts =>
      have hab := isScalar_parts? hparts
      simpa [Text.Scalar, hab.2] using ih a hab.1
    · exact hself

/-! ## Ordering -/

theorem insertMark_perm (c : Nat) (t : Text) : (insertMark c t).Perm (c :: t) := by
  induction t with
  | nil => exact .refl _
  | cons p r ih =>
    unfold insertMark
    split
    · exact (ih.cons p).trans (.swap c p r)
    · exact .refl _

/-- The second pass moves code points and changes none. -/
theorem reorder_perm (t : Text) : (reorder t).Perm t := by
  have hfold : ∀ (t done : Text),
      (t.foldl (fun done c => insertMark c done) done).Perm (t.reverse ++ done) := by
    intro t
    induction t with
    | nil => exact fun done => .refl _
    | cons c r ih =>
      intro done
      rw [List.reverse_cons, List.append_assoc]
      exact (ih (insertMark c done)).trans ((insertMark_perm c done).append_left _)
  have hall := hfold t []
  rw [List.append_nil] at hall
  exact (List.reverse_perm _).trans (hall.trans (List.reverse_perm _))

/-! ## Putting together -/

theorem scalar_composeAfter (t : Text) : ∀ (starter : Nat) (marks : Text) (last : Nat),
    isScalar starter = true → marks.Scalar → t.Scalar →
      (composeAfter starter marks last t).Scalar := by
  induction t with
  | nil =>
    intro starter marks last hs hm _
    simpa [composeAfter, Text.Scalar, hs] using hm
  | cons c r ih =>
    intro starter marks last hs hm ht
    obtain ⟨hc, hr⟩ : isScalar c = true ∧ Text.Scalar r := by simpa [Text.Scalar] using ht
    unfold composeAfter
    dsimp only
    split
    · next s hjoined =>
      have hcomposed : isScalar s = true := by
        split at hjoined
        · exact isScalar_composite? hjoined
        · cases hjoined
      exact ih s marks last hcomposed hm hr
    · split
      · have hrest := ih c [] 0 hc rfl hr
        simp only [Text.Scalar, List.all_cons, List.all_append, List.all_reverse,
          Bool.and_eq_true] at hm hrest ⊢
        exact ⟨hs, hm, hrest⟩
      · refine ih starter (c :: marks) (markClass c) hs ?_ hr
        simpa [Text.Scalar, hc] using hm

theorem scalar_compose (t : Text) (ht : t.Scalar) : (compose t).Scalar := by
  induction t with
  | nil => rfl
  | cons c r ih =>
    obtain ⟨hc, hr⟩ : isScalar c = true ∧ Text.Scalar r := by simpa [Text.Scalar] using ht
    unfold compose
    split
    · exact scalar_composeAfter r c [] 0 hc rfl hr
    · simpa [Text.Scalar, hc] using ih hr

end ProofLedger.Text.Normal

namespace ProofLedger.Text

/-- Below U+0300 a text is its own normal form. -/
theorem nfc_of_small {t : Text} (h : ∀ c ∈ t, c < 0x300) : t.nfc = t := by
  have hall : t.all (· < 0x300) = true := by simpa using h
  rw [nfc, if_pos hall]

/-- The normal form of a text that has octets has octets. -/
theorem scalar_nfc {t : Text} (ht : t.Scalar) : t.nfc.Scalar := by
  unfold nfc
  split
  · exact ht
  · have hapart : Scalar (t.flatMap Normal.decompose) := by
      refine List.all_eq_true.mpr fun x hx => ?_
      obtain ⟨c, hc, hx⟩ := List.mem_flatMap.mp hx
      have hparts := Normal.scalar_decomposeWith 4 c (List.all_eq_true.mp ht c hc)
      exact List.all_eq_true.mp hparts x hx
    have hordered : Scalar (Normal.reorder (t.flatMap Normal.decompose)) :=
      List.all_eq_true.mpr fun x hx =>
        List.all_eq_true.mp hapart x ((Normal.reorder_perm _).mem_iff.mp hx)
    exact Normal.scalar_compose _ hordered

end ProofLedger.Text
