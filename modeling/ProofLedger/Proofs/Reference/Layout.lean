import ProofLedger.Proofs.Digest.ProofHash
import ProofLedger.Proofs.Shape
import ProofLedger.Reference

/-!
# The reference prover's own proofs pass its checks

`fits_layout`: the objects of an input have the shape that is expected of its length, whatever
the length and the seed. `exists_hash`: their hash is always there, since a length below 2^64
fits a numeral. Both together make `exists_proof`: the reference prover has a proof of every such
input.
-/

namespace ProofLedger.Reference

open ProofShape

/-! ## Counting tags -/

theorem countTag_append (os os' : List ProofObject) (tag : Text) :
    countTag (os ++ os') tag = countTag os tag + countTag os' tag := List.countP_append

/-- The objects of one tag and many numbers all count for that tag, and for no other. -/
theorem countTag_blobs (seed : Bytes) (made : Name) (indices : List Nat) (tag : Text) :
    countTag (indices.map (blob seed made)) tag =
      if made.val = tag then indices.length else 0 := by
  have htag (n : Nat) : (blob seed made n).tag = made := rfl
  rw [countTag, List.countP_map]
  split
  · next h => exact List.countP_eq_length.mpr fun n _ => by simp [htag, h]
  · next h => exact List.countP_eq_zero.mpr fun n _ => by simp [htag, h]

theorem countTag_copies (o : ProofObject) (n : Nat) (tag : Text) :
    countTag (List.replicate n o) tag = if o.tag.val = tag then n else 0 := by
  simp [countTag, List.countP_replicate]

theorem countTag_layout (i : ProveInput) (seed : Bytes) (tag : Text) :
    countTag (layout i seed) tag =
      (if puzzle.val = tag then 1 else 0) + ((if merkleRoot.val = tag then rootCount else 0) +
        ((if heights.val = tag then i.length else 0) +
          ((if codeword.val = tag then i.length else 0) + if poly.val = tag then 1 else 0))) := by
  have hparts : layout i seed = [0].map (blob seed puzzle) ++
      ((List.range rootCount).map (blob seed merkleRoot) ++
        (List.replicate i.length (object heights (heightOctets i)) ++
          ((List.range i.length).map (blob seed codeword) ++ [0].map (blob seed poly)))) := by
    simp only [layout, List.map_cons, List.map_nil, List.singleton_append]
  have hcopy : (object heights (heightOctets i)).tag = heights := rfl
  rw [hparts]
  simp only [countTag_append, countTag_blobs, countTag_copies, hcopy, List.length_range,
    List.length_singleton]

/-! ## Shape and hash -/

/-- Only the copies carry the tag that is uniform. -/
theorem eq_of_mem_layout {i : ProveInput} {seed : Bytes} {o : ProofObject}
    (ho : o ∈ layout i seed) (htag : o.tag.val = heights.val) :
    o = object heights (heightOctets i) := by
  simp only [layout, List.mem_cons, List.mem_append, List.mem_map, List.mem_replicate,
    List.not_mem_nil, or_false] at ho
  rcases ho with rfl | ⟨n, -, rfl⟩ | ⟨-, rfl⟩ | ⟨n, -, rfl⟩ | rfl
  · exact absurd htag (by decide : puzzle.val ≠ heights.val)
  · exact absurd htag (by decide : merkleRoot.val ≠ heights.val)
  · rfl
  · exact absurd htag (by decide : codeword.val ≠ heights.val)
  · exact absurd htag (by decide : poly.val ≠ heights.val)

/-- The objects of an input fit the shape of its length. -/
theorem fits_layout (i : ProveInput) (seed : Bytes) : (shape i.length).Fits (layout i seed) where
  total n hn := by
    simp only [shape, Option.mem_def, Option.some.injEq] at hn
    simp only [layout, List.length_cons, List.length_append, List.length_map, List.length_range,
      List.length_replicate, List.length_nil]
    omega
  counts e he := by
    simp only [shape, List.mem_cons, List.not_mem_nil, or_false] at he
    -- each required tag counts its own part of the layout and no other
    rcases he with rfl | rfl | rfl | rfl <;> rw [countTag_layout] <;>
      simp +decide only [if_true, if_false, Nat.zero_add, Nat.add_zero]
  uniform tag htag o ho o' ho' hotag hotag' := by
    obtain rfl : tag = heights.val := List.mem_singleton.mp htag
    rw [eq_of_mem_layout ho hotag, eq_of_mem_layout ho' hotag']

/-- What the shape of a length below the bound asks for can be shown. -/
theorem showable_shape {n : Nat} (h : n < 2 ^ 64) : (shape n).Showable := by
  have hbound : 2 * 2 ^ 64 + rootCount + 2 < 10 ^ 100 := by decide
  have hroots : rootCount = 4 := rfl
  refine showable_of_lt (fun k hk => ?_) fun e he => ?_
  · simp only [shape, Option.mem_def, Option.some.injEq] at hk
    omega
  · simp only [shape, List.mem_cons, List.not_mem_nil, or_false] at he
    rcases he with rfl | rfl | rfl | rfl
    · exact ⟨1, rfl, by omega⟩
    · exact ⟨rootCount, rfl, by omega⟩
    · exact ⟨n, rfl, by omega⟩
    · exact ⟨1, rfl, by omega⟩

/-- Every proof of an input below the bound has a hash. -/
theorem exists_hash {i : ProveInput} (h : i.length < 2 ^ 64) (os : List ProofObject) :
    ∃ digest, hash i os = .ok digest := by
  have hfits : Number.fits i.length = true :=
    ProofRecord.fits_of_lt (Nat.lt_trans h (by decide))
  have hoctets : proofPreimage i os = .ok _ := proofPreimage_eq_ok_iff.mpr ⟨hfits, rfl⟩
  exact ⟨_, by rw [hash, hashProof, hoctets]; rfl⟩

/-- A hash can be the hash of a record. -/
theorem hash_scalar {i : ProveInput} {os : List ProofObject} {digest : Text}
    (h : hash i os = .ok digest) : digest.Scalar ∧ digest ≠ [] := by
  obtain ⟨octets, -, rfl⟩ := map_eq_ok (mapError_eq_ok h)
  refine ⟨Text.Utf8.scalar_of_lt fun c hc => ?_, ?_⟩
  · exact Nat.lt_trans (lt_of_mem_hexField (isHexField_encode _) c hc) (by decide)
  · simp [Sha256.hex, Sha256.digest, Sha256.octets, Text.Hex.encode, Text.Hex.encodeByte]

theorem objects_of_lt {i : ProveInput} (h : i.length < 2 ^ 64) :
    objects i = .ok (layout i (Sha256.digest (seedPreimage i))) := by
  rw [objects, if_pos h]

/-- Every input below the bound has a proof. -/
theorem exists_proof {i : ProveInput} (h : i.length < 2 ^ 64) :
    ∃ os digest, proof i = .ok (os, digest) ∧ objects i = .ok os ∧ hash i os = .ok digest := by
  obtain ⟨os, hos⟩ : ∃ os, objects i = .ok os := ⟨_, objects_of_lt h⟩
  obtain ⟨digest, hdigest⟩ := exists_hash h os
  have hproof : proof i = .ok (os, digest) := by
    simp only [proof, hos, bind, Except.bind, hdigest, pure, Except.pure]
  exact ⟨os, digest, hproof, hos, hdigest⟩

end ProofLedger.Reference
