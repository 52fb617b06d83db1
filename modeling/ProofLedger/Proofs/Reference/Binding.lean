import ProofLedger.Proofs.Reference.Verdict
import ProofLedger.Proofs.Run.Answer
import ProofLedger.Proofs.Text.Utf8

/-!
# What the reference prover's proofs are bound to

`judge_binds`: the reference oracle takes the objects of one input for the proof of another only
where two different strings that the digests of the two were taken of have the same digest. No
assumption is made of the digest: such a pair of strings is what the oracle's mistake comes from.

All strings are put together from fields of a fixed width, so they can be taken apart again. The
string of a seed is thirteen numbers of eight octets (`seedPreimage_inj`). The string of an object
ends in a number of eight octets after the seed, which leaves its tag (`blobPreimage_inj`); so it
does no harm that tags differ in length and nothing stands between tag and number.
-/

namespace ProofLedger

/-! ## Fields of eight octets -/

namespace Sha256

theorem octets64_inj {m n : Nat} (hm : m < 2 ^ 64) (hn : n < 2 ^ 64)
    (h : octets64 m = octets64 n) : m = n := by
  have hdigit {a b : Nat} (hab : UInt8.ofNat a = UInt8.ofNat b) : a % 256 = b % 256 := by
    simpa only [UInt8.toNat_ofNat'] using congrArg UInt8.toNat hab
  simp only [octets64, List.cons.injEq, and_true] at h
  obtain ⟨h₇, h₆, h₅, h₄, h₃, h₂, h₁, h₀⟩ := h
  have h₇ := hdigit h₇
  have h₆ := hdigit h₆
  have h₅ := hdigit h₅
  have h₄ := hdigit h₄
  have h₃ := hdigit h₃
  have h₂ := hdigit h₂
  have h₁ := hdigit h₁
  have h₀ := hdigit h₀
  omega

/-- Numbers side by side can be told apart. -/
theorem flatMap_octets64_inj : ∀ {ms ns : List Nat}, (∀ m ∈ ms, m < 2 ^ 64) →
    (∀ n ∈ ns, n < 2 ^ 64) → ms.flatMap octets64 = ns.flatMap octets64 → ms = ns
  | [], [], _, _, _ => rfl
  | [], n :: ns, _, _, h => by simp [octets64] at h
  | m :: ms, [], _, _, h => by simp [octets64] at h
  | m :: ms, n :: ns, hms, hns, h => by
    rw [List.flatMap_cons, List.flatMap_cons] at h
    obtain ⟨hhead, htail⟩ := List.append_inj h rfl
    rw [octets64_inj (hms m List.mem_cons_self) (hns n List.mem_cons_self) hhead,
      flatMap_octets64_inj (fun x hx => hms x (List.mem_cons_of_mem _ hx))
        (fun x hx => hns x (List.mem_cons_of_mem _ hx)) htail]

end Sha256

theorem Text.Utf8.encode_inj {s t : Text} (hs : s.Scalar) (ht : t.Scalar)
    (h : encode s = encode t) : s = t := by
  have hs := decode_of_scalar hs false
  rw [h, decode_of_scalar ht] at hs
  exact (Except.ok.inj hs).symm

theorem Text.Hex.encode_inj {a b : Bytes} (h : encode a = encode b) : a = b := by
  have ha := decode?_encode a
  rw [h, decode?_encode] at ha
  exact (Option.some.inj ha).symm

namespace Reference

/-! ## Strings and what they are made of -/

theorem seedPreimage_eq (i : ProveInput) : seedPreimage i =
    (i.length :: (i.blockCommitment.values ++ i.nonce.values)).flatMap Sha256.octets64 := by
  simp only [seedPreimage, wordOctets, List.flatMap_cons, List.flatMap_append, List.append_assoc]

/-- Inputs below the bound have different seeds' strings. -/
theorem seedPreimage_inj {i j : ProveInput} (hi : i.length < 2 ^ 64) (hj : j.length < 2 ^ 64)
    (h : seedPreimage i = seedPreimage j) : i = j := by
  have hbounded {k : ProveInput} (hk : k.length < 2 ^ 64) :
      ∀ n ∈ k.length :: (k.blockCommitment.values ++ k.nonce.values), n < 2 ^ 64 := by
    intro n hn
    rcases List.mem_cons.mp hn with rfl | hn
    · exact hk
    · rcases List.mem_append.mp hn with hn | hn
      · exact k.blockCommitment.bounded n hn
      · exact k.nonce.bounded n hn
  rw [seedPreimage_eq, seedPreimage_eq] at h
  obtain ⟨hlength, hwords⟩ :=
    List.cons.inj (Sha256.flatMap_octets64_inj (hbounded hi) (hbounded hj) h)
  obtain ⟨hcommitment, hnonce⟩ := List.append_inj hwords
    (i.blockCommitment.length_eq.trans j.blockCommitment.length_eq.symm)
  obtain ⟨length, ⟨⟩, ⟨⟩⟩ := i
  obtain ⟨length', ⟨⟩, ⟨⟩⟩ := j
  simp only at hlength hcommitment hnonce
  subst hlength hcommitment hnonce
  rfl

/-- The string of an object has its number in the last eight octets, and its tag between the seed
and these. -/
theorem blobPreimage_inj {seed : Bytes} {tag tag' : Name} {n n' : Nat} (hn : n < 2 ^ 64)
    (hn' : n' < 2 ^ 64) (h : blobPreimage seed tag n = blobPreimage seed tag' n') :
    tag = tag' ∧ n = n' := by
  rw [blobPreimage, blobPreimage, List.append_assoc, List.append_assoc] at h
  obtain ⟨htag, hnumber⟩ := List.append_inj' (List.append_cancel_left h) rfl
  exact ⟨Subtype.ext (Text.Utf8.encode_inj tag.property.1 tag'.property.1 htag),
    Sha256.octets64_inj hn hn' hnumber⟩

/-! ## Where digests are taken -/

/-- The tags and numbers of the objects that are digests, in the order of the layout. -/
def places (i : ProveInput) : List (Name × Nat) :=
  (puzzle, 0) :: ((List.range rootCount).map (merkleRoot, ·) ++
    ((List.range i.length).map (codeword, ·) ++ [(poly, 0)]))

/-- All strings that digests are taken of for the objects of an input. -/
def feeds (i : ProveInput) : List Bytes :=
  seedPreimage i ::
    (places i).map fun p => blobPreimage (Sha256.digest (seedPreimage i)) p.1 p.2

/-- Different strings of two lists have one digest. -/
def Collide (xs ys : List Bytes) : Prop :=
  ∃ x ∈ xs, ∃ y ∈ ys, x ≠ y ∧ Sha256.digest x = Sha256.digest y

/-- Besides the heights, a layout has the objects of its places and no others. -/
theorem blobs_layout (i : ProveInput) (seed : Bytes) :
    (layout i seed).filter (·.tag ≠ heights) = (places i).map fun p => blob seed p.1 p.2 := by
  have hblob (tag : Name) (n : Nat) : (blob seed tag n).tag = tag := rfl
  have hcopy : (object heights (heightOctets i)).tag = heights := rfl
  have htags : puzzle ≠ heights ∧ merkleRoot ≠ heights ∧ codeword ≠ heights ∧ poly ≠ heights := by
    decide
  obtain ⟨hpuzzle, hroot, hcodeword, hpoly⟩ := htags
  simp [layout, places, List.filter_append, List.filter_map, Function.comp_def, hblob, hcopy,
    hpuzzle, hroot, hcodeword, hpoly]

theorem lt_of_mem_places {i : ProveInput} (hi : i.length < 2 ^ 64) {p : Name × Nat}
    (hp : p ∈ places i) : p.2 < 2 ^ 64 := by
  simp only [places, List.mem_cons, List.mem_append, List.mem_map, List.mem_range,
    List.not_mem_nil, or_false] at hp
  have hroots : rootCount < 2 ^ 64 := by decide
  rcases hp with rfl | ⟨n, hn, rfl⟩ | ⟨n, hn, rfl⟩ | rfl
  · decide
  · exact Nat.lt_trans hn hroots
  · exact Nat.lt_trans hn hi
  · decide

/-! ## Binding -/

/-- Two inputs with one layout are the same, or two strings collide. Its first object is enough to
tell: it is a digest of the seed, and the seed is a digest of the input. -/
theorem eq_or_collide {i j : ProveInput} (hi : i.length < 2 ^ 64) (hj : j.length < 2 ^ 64)
    (h : layout i (Sha256.digest (seedPreimage i)) = layout j (Sha256.digest (seedPreimage j))) :
    i = j ∨ Collide (feeds i) (feeds j) := by
  have hblobs := congrArg (List.filter (·.tag ≠ heights)) h
  rw [blobs_layout, blobs_layout] at hblobs
  have hdigests := Text.Hex.encode_inj (congrArg (·.data.val) (List.cons.inj hblobs).1)
  by_cases hseeds : Sha256.digest (seedPreimage i) = Sha256.digest (seedPreimage j)
  · by_cases hsame : seedPreimage i = seedPreimage j
    · exact .inl (seedPreimage_inj hi hj hsame)
    · exact .inr ⟨_, List.mem_cons_self, _, List.mem_cons_self, hsame, hseeds⟩
  · have hfed (k : ProveInput) :
        blobPreimage (Sha256.digest (seedPreimage k)) puzzle 0 ∈ feeds k :=
      List.mem_cons_of_mem _ List.mem_cons_self
    refine .inr ⟨_, hfed i, _, hfed j, fun hsame => hseeds ?_, hdigests⟩
    exact List.append_cancel_right (List.append_cancel_right hsame)

/-- The oracle judges the objects of one input against another. It takes them for the same input,
and for a different one only where two strings collide; strings of different inputs, and strings of
different places under one seed, are different. -/
theorem judge_binds (i j : ProveInput) (hi : i.length < 2 ^ 64) (hj : j.length < 2 ^ 64) :
    (∃ os b, objects i = .ok os ∧ judge j os = .judged (.bool b) ∧ (i = j → b = true) ∧
      (b = true → i = j ∨ Collide (feeds i) (feeds j))) ∧
    (seedPreimage i = seedPreimage j → i = j) ∧
    ∀ seed, ∀ p ∈ places i, ∀ q ∈ places j,
      blobPreimage seed p.1 p.2 = blobPreimage seed q.1 q.2 → p = q := by
  refine ⟨?_, seedPreimage_inj hi hj, fun seed p hp q hq h => ?_⟩
  · have hobjects := objects_of_lt hi
    obtain ⟨b, hjudge, htrue⟩ := judge_eq hj (layout i (Sha256.digest (seedPreimage i)))
    refine ⟨_, b, hobjects, hjudge, fun heq => htrue.mpr (heq ▸ hobjects), fun hb => ?_⟩
    have hsame := (objects_of_lt hj).symm.trans (htrue.mp hb)
    exact eq_or_collide hi hj (Except.ok.inj hsame).symm
  · exact Prod.ext_iff.mpr (blobPreimage_inj (lt_of_mem_places hi hp) (lt_of_mem_places hj hq) h)

/-- An input of small numbers. -/
def small : ProveInput :=
  ⟨2, ⟨[1, 2, 3, 4, 5], rfl, by decide⟩, ⟨[6, 7, 8, 9, 10], rfl, by decide⟩⟩

/-- The same with another nonce. -/
def renonced : ProveInput := { small with nonce := ⟨[6, 7, 8, 9, 11], rfl, by decide⟩ }

/-- The objects of an input do not pass for those of one with another nonce, unless two strings
collide. -/
theorem judge_binds_renonced : ∃ os b, objects small = .ok os ∧
    judge renonced os = .judged (.bool b) ∧
    (b = true → Collide (feeds small) (feeds renonced)) ∧
    seedPreimage small ≠ seedPreimage renonced := by
  have hne : small ≠ renonced := by decide
  obtain ⟨⟨os, b, hos, hjudge, -, htrue⟩, hseeds, -⟩ :=
    judge_binds small renonced (by decide) (by decide)
  exact ⟨os, b, hos, hjudge, fun hb => (htrue hb).resolve_left hne, fun h => hne (hseeds h)⟩

end Reference

end ProofLedger
