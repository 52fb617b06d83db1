import ProofLedger.Digest.ProofHash
import ProofLedger.Proofs.Digest.Canonical
import ProofLedger.Proofs.Record.RoundTrip
import ProofLedger.Proofs.Text.Normal

/-!
# What a proof's digest binds

`proofPreimage_inj`: the octets that are digested determine the input, and the objects one by one
up to the normal form of their tags. Tags that are one text in two spellings are one tag for the
digest (`proofPreimage_merges`); data and numbers are bound as they stand.

The way there is short because the canonical document of a payload is known in closed form
(`canonicalJson_payload`): its text reads back, and what is read shows every field.
`proofPreimage_eq_ok_iff` adds when there is such a text at all.
-/

namespace ProofLedger

/-! ## The canonical document of a payload -/

/-- The items of a list are taken one by one, whatever the path to them. -/
theorem Data.canonicalItems_map {α : Type} {f : α → Data} {g : α → Json} (xs : List α)
    (h : ∀ x ∈ xs, ∀ path, (f x).canonicalAt path = .ok (g x)) (path : Text) (index : Nat) :
    Data.canonicalItems path index (xs.map f) = .ok (xs.map g) := by
  refine canonicalItems_of_forall₂ ?_ path index
  rw [List.forall₂_map_left_iff, List.forall₂_map_right_iff]
  exact List.forall₂_same.mpr h

/-- Words in canonical form. -/
def Words.canonical (ws : Words) : Json := .list (ws.values.map fun w => .int (w : Nat))

/-- An input in canonical form. -/
def ProveInput.canonical (i : ProveInput) : Json :=
  .dict [("block_commitment", i.blockCommitment.canonical), ("length", .int i.length),
    ("nonce", i.nonce.canonical)]

/-- An object in canonical form: its tag is normalised. -/
def ProofObject.canonical (o : ProofObject) : Json :=
  .dict [("data", .text o.data.val), ("type", .text o.tag.val.nfc)]

/-- Input and objects in canonical form. -/
def canonicalPayload (i : ProveInput) (os : List ProofObject) : Json :=
  .dict [("input", i.canonical), ("proof", .list (os.map ProofObject.canonical))]

theorem Words.canonicalAt_toData (ws : Words) (path : Text) :
    ws.toData.canonicalAt path = .ok ws.canonical := by
  have hitems := Data.canonicalItems_map (f := fun w : Nat => Data.int w)
    (g := fun w : Nat => Json.int w) ws.values (fun _ _ _ => rfl) path 0
  rw [Words.toData, Data.canonicalAt, hitems]
  rfl

theorem ProveInput.canonicalAt_toData (i : ProveInput) (path : Text) :
    i.toData.canonicalAt path = .ok i.canonical := by
  have hentries : Data.canonicalEntries [("length", .int i.length),
      ("block_commitment", i.blockCommitment.canonical), ("nonce", i.nonce.canonical)] = _ :=
    Data.canonicalEntries_eq_of_perm (.swap _ _ _) (by simp; decide) (by simp; decide)
  simp only [ProveInput.toData, ProveInput.toFields, Data.canonicalAt, Data.canonicalFields,
    Words.canonicalAt_toData]
  exact congrArg (fun es => Except.ok (Json.dict es)) hentries

/-- Hexadecimal text is ASCII text, its line feed included. -/
theorem lt_of_mem_hexField {t : Text} (h : isHexField t = true) : ∀ c ∈ t, c < 128 := by
  have hdigits : ∀ t : Text, Text.Hex.isHexText t = true → ∀ c ∈ t, c < 128 := by
    intro t
    induction t using Text.Hex.isHexText.induct with
    | case1 => simp
    | case2 a b r ih =>
      intro h c hc
      simp only [Text.Hex.isHexText, Text.Hex.isHexDigit, Text.isDigit, Bool.and_eq_true,
        Bool.or_eq_true, decide_eq_true_eq] at h
      rcases List.mem_cons.mp hc with rfl | hc
      · omega
      · rcases List.mem_cons.mp hc with rfl | hc
        · omega
        · exact ih h.2 c hc
    | case3 a => simp [Text.Hex.isHexText]
  intro c hc
  simp only [isHexField, Bool.or_eq_true, Bool.and_eq_true, beq_iff_eq] at h
  rcases h with h | ⟨hlast, h⟩
  · exact hdigits t h c hc
  · rw [List.getLast?_eq_some_iff] at hlast
    obtain ⟨front, rfl⟩ := hlast
    rw [List.dropLast_concat] at h
    rcases List.mem_append.mp hc with hc | hc
    · exact hdigits front h c hc
    · exact List.mem_singleton.mp hc ▸ (by decide)

theorem ProofObject.canonicalAt_toData (o : ProofObject) (path : Text) :
    o.toData.canonicalAt path = .ok o.canonical := by
  have hdata : o.data.val.nfc = o.data.val :=
    Text.nfc_of_small fun c hc => Nat.lt_trans (lt_of_mem_hexField o.data.property c hc) (by decide)
  have hentries : Data.canonicalEntries [("type", .text o.tag.val.nfc),
      ("data", .text o.data.val)] = _ :=
    Data.canonicalEntries_eq_of_perm (.swap _ _ _) (by simp; decide) (by simp; decide)
  simp only [ProofObject.toData, ProofObject.toFields, Data.canonicalAt, Data.canonicalFields,
    hdata]
  exact congrArg (fun es => Except.ok (Json.dict es)) hentries

/-- The canonical document of a payload, field by field. -/
theorem canonicalJson_payload (i : ProveInput) (os : List ProofObject) :
    (proofPayload i os).canonicalJson = .ok (canonicalPayload i os) := by
  have hobjects (path : Text) :=
    Data.canonicalItems_map os (fun o _ => o.canonicalAt_toData) path 0
  have hentries : Data.canonicalEntries [("input", i.canonical),
      ("proof", .list (os.map ProofObject.canonical))] = _ :=
    Data.canonicalEntries_eq_of_perm (.refl _) (by simp; decide) (by simp; decide)
  simp only [Data.canonicalJson, proofPayload, Data.canonicalAt, Data.canonicalFields,
    ProveInput.canonicalAt_toData, hobjects]
  exact congrArg (fun es => Except.ok (Json.dict es)) hentries

/-! ## What the document shows -/

theorem Words.canonical_inj {ws ws' : Words} (h : ws.canonical = ws'.canonical) : ws = ws' := by
  have hvalues : ws.values = ws'.values := by
    refine List.map_injective_iff.mpr ?_ (Json.list.inj h)
    intro m n hmn
    exact Int.ofNat_inj.mp (Json.int.inj hmn)
  cases ws
  cases ws'
  cases hvalues
  rfl

theorem ProveInput.canonical_inj {i i' : ProveInput} (h : i.canonical = i'.canonical) :
    i = i' := by
  cases i
  cases i'
  simp only [ProveInput.canonical, Json.dict.injEq, List.cons.injEq, Prod.mk.injEq, true_and,
    Json.int.injEq, Int.natCast_inj, and_true] at h
  obtain ⟨hcommitment, rfl, hnonce⟩ := h
  rw [Words.canonical_inj hcommitment, Words.canonical_inj hnonce]

/-- One object for the digest: the same data, and tags that are one text in normal form. -/
def ProofObject.Alike (o o' : ProofObject) : Prop :=
  o.tag.val.nfc = o'.tag.val.nfc ∧ o.data = o'.data

theorem ProofObject.canonical_eq_iff (o o' : ProofObject) :
    o.canonical = o'.canonical ↔ o.Alike o' := by
  simp only [ProofObject.canonical, ProofObject.Alike, Json.dict.injEq, List.cons.injEq,
    Prod.mk.injEq, true_and, Json.text.injEq, and_true, Subtype.ext_iff]
  exact and_comm

theorem canonicalPayload_eq_iff (i i' : ProveInput) (os os' : List ProofObject) :
    canonicalPayload i os = canonicalPayload i' os' ↔
      i = i' ∧ List.Forall₂ ProofObject.Alike os os' := by
  have hobjects : os.map ProofObject.canonical = os'.map ProofObject.canonical ↔
      List.Forall₂ ProofObject.Alike os os' := by
    rw [← List.forall₂_eq_eq_eq, List.forall₂_map_left_iff, List.forall₂_map_right_iff]
    simp only [ProofObject.canonical_eq_iff]
  have hinput : i.canonical = i'.canonical ↔ i = i' := ⟨ProveInput.canonical_inj, fun h => h ▸ rfl⟩
  simp only [canonicalPayload, Json.dict.injEq, List.cons.injEq, Prod.mk.injEq, true_and,
    Json.list.injEq, and_true, hobjects, hinput]

/-! ## The octets -/

/-- What numbers and writable texts have, and a whole when its parts have it, holds of the
document of a payload whose length fits a numeral. -/
theorem inherited_canonicalPayload {P : Json → Prop} (hP : Json.Inherited P)
    (htext : ∀ {t : Text}, t.Scalar → P (.text t)) {i : ProveInput}
    (h : Number.fits i.length = true) (os : List ProofObject) : P (canonicalPayload i os) := by
  have hwords (ws : Words) : P ws.canonical := by
    refine hP.list fun j hj => ?_
    obtain ⟨w, hw, rfl⟩ := List.mem_map.mp hj
    exact hP.int (ProofRecord.fits_of_lt (Nat.lt_trans (ws.bounded w hw) (by decide)))
  have hinput : P i.canonical := by
    refine hP.dict (by simp; decide) fun e he => ?_
    simp only [List.mem_cons, List.not_mem_nil, or_false] at he
    rcases he with rfl | rfl | rfl
    · exact ⟨rfl, hwords _⟩
    · exact ⟨rfl, hP.int h⟩
    · exact ⟨rfl, hwords _⟩
  have hobject (o : ProofObject) : P o.canonical := by
    have hdata : Text.Scalar o.data.val := List.all_eq_true.mpr fun c hc =>
      Text.Utf8.isScalar_of_lt (Nat.lt_trans (lt_of_mem_hexField o.data.property c hc) (by decide))
    refine hP.dict (by simp; decide) fun e he => ?_
    simp only [List.mem_cons, List.not_mem_nil, or_false] at he
    rcases he with rfl | rfl
    · exact ⟨rfl, htext hdata⟩
    · exact ⟨rfl, htext (Text.scalar_nfc o.tag.property.1)⟩
  have hobjects : P (.list (os.map ProofObject.canonical)) := by
    refine hP.list fun j hj => ?_
    obtain ⟨o, -, rfl⟩ := List.mem_map.mp hj
    exact hobject o
  refine hP.dict (by simp; decide) fun e he => ?_
  simp only [List.mem_cons, List.not_mem_nil, or_false] at he
  rcases he with rfl | rfl
  · exact ⟨rfl, hinput⟩
  · exact ⟨rfl, hobjects⟩

theorem Json.inherited_fits : Json.Inherited fun j => j.fits = true where
  int := id
  double _ := rfl
  list := Json.fitsItems_iff.mpr
  dict _ hes := Json.fitsEntries_iff.mpr fun e he => (hes e he).2

/-- A payload has a canonical text when its length fits a numeral, and only then. -/
theorem fits_canonicalPayload (i : ProveInput) (os : List ProofObject) :
    (canonicalPayload i os).fits = true ↔ Number.fits i.length = true := by
  refine ⟨fun h => ?_, fun h => inherited_canonicalPayload Json.inherited_fits (fun _ => rfl) h os⟩
  simp only [canonicalPayload, ProveInput.canonical, Json.fits, Json.fitsEntries,
    Bool.and_eq_true] at h
  exact h.1.2.1

/-- When there are octets to digest, and which. -/
theorem proofPreimage_eq_ok_iff {i : ProveInput} {os : List ProofObject} {b : Bytes} :
    proofPreimage i os = .ok b ↔
      Number.fits i.length = true ∧ b = Text.Utf8.encode (canonicalPayload i os).compact := by
  have htext : (proofPayload i os).canonicalText =
      if Number.fits i.length = true then .ok (canonicalPayload i os).compact
      else .error .longInteger := by
    simp only [← fits_canonicalPayload i os, Data.canonicalText, canonicalJson_payload]
    rfl
  rw [proofPreimage, htext]
  split
  · next h => simp [h, Except.map, eq_comm]
  · next h => simp [h, Except.map]

theorem faithful_canonicalPayload {i : ProveInput} (h : Number.fits i.length = true)
    (os : List ProofObject) : (canonicalPayload i os).Faithful :=
  inherited_canonicalPayload Json.inherited_faithful (fun _ => trivial) h os

theorem scalar_canonicalPayload {i : ProveInput} (h : Number.fits i.length = true)
    (os : List ProofObject) : (canonicalPayload i os).compact.Scalar :=
  Json.scalar_compact (inherited_canonicalPayload Json.inherited_texts
    (fun ht c hc _ => List.all_eq_true.mp ht c hc) h os)

/-- The octets that are digested determine the input and, up to the normal form of tags, the
objects in their order. -/
theorem proofPreimage_inj {i i' : ProveInput} {os os' : List ProofObject} {b b' : Bytes}
    (h : proofPreimage i os = .ok b) (h' : proofPreimage i' os' = .ok b') :
    b = b' ↔ i = i' ∧ List.Forall₂ ProofObject.Alike os os' := by
  obtain ⟨hfits, rfl⟩ := proofPreimage_eq_ok_iff.mp h
  obtain ⟨hfits', rfl⟩ := proofPreimage_eq_ok_iff.mp h'
  rw [← canonicalPayload_eq_iff]
  refine ⟨fun heq => ?_, fun heq => by rw [heq]⟩
  -- octets read back as the text, and the text as the document
  have htext := Text.Utf8.decode_of_scalar (scalar_canonicalPayload hfits os) false
  rw [heq, Text.Utf8.decode_of_scalar (scalar_canonicalPayload hfits' os') false] at htext
  have hread := Json.read_compact (faithful_canonicalPayload hfits os) (Json.Room.holds_none _)
  rw [← Except.ok.inj htext, Json.read_compact (faithful_canonicalPayload hfits' os')
    (Json.Room.holds_none _)] at hread
  exact (Except.ok.inj hread).symm

/-- Two spellings of one tag. -/
def spellings : List ProofObject × List ProofObject :=
  ([⟨⟨[0xE9], by decide⟩, ⟨"00", by decide⟩⟩], [⟨⟨[0x65, 0x301], by decide⟩, ⟨"00", by decide⟩⟩])

/-- Objects that differ in the spelling of a tag have the same octets. -/
theorem proofPreimage_merges : ∃ b,
    proofPreimage ProofRecord.sample.input spellings.1 = .ok b ∧
      proofPreimage ProofRecord.sample.input spellings.2 = .ok b ∧
      spellings.1 ≠ spellings.2 := by
  have hfits : Number.fits ProofRecord.sample.input.length = true :=
    ProofRecord.fits_of_lt (by decide)
  have hnfc : Text.nfc [0x65, 0x301] = Text.nfc [0xE9] := by decide +kernel
  have hsame : canonicalPayload ProofRecord.sample.input spellings.1 =
      canonicalPayload ProofRecord.sample.input spellings.2 :=
    (canonicalPayload_eq_iff ..).mpr ⟨rfl, .cons ⟨hnfc.symm, rfl⟩ .nil⟩
  refine ⟨_, proofPreimage_eq_ok_iff.mpr ⟨hfits, rfl⟩,
    proofPreimage_eq_ok_iff.mpr ⟨hfits, by rw [hsame]⟩, by decide⟩

/-- The order of objects is bound. -/
theorem proofPreimage_inj_swapped : ∃ b b',
    proofPreimage ProofRecord.sample.input (spellings.1 ++ ProofRecord.sample.objects) = .ok b ∧
      proofPreimage ProofRecord.sample.input (ProofRecord.sample.objects ++ spellings.1) = .ok b' ∧
      b ≠ b' := by
  have hfits : Number.fits ProofRecord.sample.input.length = true :=
    ProofRecord.fits_of_lt (by decide)
  have h (os : List ProofObject) : proofPreimage ProofRecord.sample.input os = .ok _ :=
    proofPreimage_eq_ok_iff.mpr ⟨hfits, rfl⟩
  refine ⟨_, _, h _, h _, fun heq => ?_⟩
  obtain ⟨-, hobjects⟩ := (proofPreimage_inj (h _) (h _)).mp heq
  cases hobjects with
  | cons hhead _ => exact absurd hhead.2 (by decide)

end ProofLedger
