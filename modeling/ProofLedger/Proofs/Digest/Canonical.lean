import Mathlib.Data.List.Nodup
import ProofLedger.Digest.Canonical
import ProofLedger.Proofs.Data.Entries
import ProofLedger.Proofs.Data.Reordered
import ProofLedger.Proofs.Json.Documents
import ProofLedger.Proofs.Json.ReadBack

/-!
# Canonical texts

`canonicalText_eq_iff`: two values have one canonical text when they are the same value up to the
normal form of texts and keys, tuples for lists, and the order of entries, and only then.

A canonical document depicts its value (`Depicts`): it says the same up to the order of entries, its
own entries are in key order, and nothing is lost in writing it. That is shown level by level, for
lists in `Depicts.list` and for dictionaries in `Depicts.dict`. From there on values need not be
looked at again: a text reads back as its document, and of the documents that say the same only one
is in key order.

The order of a dictionary comes out right although entries are sorted by the keys as they are given
and the normal forms of these may be in another order: they are sorted once more in the end
(`canonicalEntries_eq`).
-/

namespace ProofLedger

/-! ## Entries in order -/

section Order

variable {α : Type} {es out : List (Text × α)}

/-- Entries whose keys ascend have no key twice. -/
theorem Json.nodup_keys_of_ascending (h : es.Pairwise fun a b => a.1 < b.1) :
    (es.map Prod.fst).Nodup := by
  refine List.pairwise_map.mpr (h.imp ?_)
  intro a b hab heq
  rw [heq] at hab
  exact List.lt_irrefl b.1 hab

theorem Json.sortEntries_perm (es : List (Text × α)) : (Json.sortEntries es).Perm es :=
  List.mergeSort_perm _ _

/-- Sorted entries ascend when no key is there twice. -/
theorem Json.ascending_sortEntries (hkeys : (es.map Prod.fst).Nodup) :
    (Json.sortEntries es).Pairwise fun a b => a.1 < b.1 := by
  have hdistinct : (Json.sortEntries es).Pairwise fun a b => a.1 ≠ b.1 :=
    List.pairwise_map.mp (((Json.sortEntries_perm es).map Prod.fst).nodup_iff.mpr hkeys)
  refine (Json.pairwise_sortEntries es).imp₂ (fun a b hab hne => ?_) hdistinct
  rcases List.le_iff_lt_or_eq.mp hab with hlt | heq
  · exact hlt
  · exact absurd heq hne

/-- Sorting entries gives the list of the same entries whose keys ascend. -/
theorem Json.sortEntries_eq_of_perm (hperm : es.Perm out)
    (hout : out.Pairwise fun a b => a.1 < b.1) : Json.sortEntries es = out := by
  have hkeys : (es.map Prod.fst).Nodup :=
    (hperm.map Prod.fst).nodup_iff.mpr (Json.nodup_keys_of_ascending hout)
  exact ((Json.sortEntries_perm es).trans hperm).eq_of_pairwise
    (fun a b _ _ hab hba => absurd hba (List.lt_asymm hab)) (Json.ascending_sortEntries hkeys) hout

end Order

namespace Data

/-- An entry under the normal form of its key. -/
def normalEntry (e : Text × Json) : Text × Json := (e.1.nfc, e.2)

/-- Canonical entries are the entries under the normal forms of their keys, in key order, when no
two keys have one normal form. -/
theorem canonicalEntries_eq {es out : List (Text × Json)} (hperm : (es.map normalEntry).Perm out)
    (hout : out.Pairwise fun a b => a.1 < b.1) : canonicalEntries es = out := by
  have hset : ∀ rest done : List (Text × Json),
      ((done ++ rest.map normalEntry).map Prod.fst).Nodup →
      rest.foldl (fun done e => Json.setEntry done e.1.nfc e.2) done =
        done ++ rest.map normalEntry := by
    intro rest
    induction rest with
    | nil => simp
    | cons e rest ih =>
      intro done hkeys
      have hfresh : e.1.nfc ∉ done.map Prod.fst := by
        rw [List.map_append, List.nodup_append] at hkeys
        exact fun he => hkeys.2.2 _ he _ List.mem_cons_self rfl
      rw [List.map_cons, List.append_cons] at hkeys ⊢
      rw [List.foldl_cons, Json.setEntry_fresh e.2 hfresh]
      exact ih _ hkeys
  have hsorted : ((Json.sortEntries es).map normalEntry).Perm out :=
    ((Json.sortEntries_perm es).map normalEntry).trans hperm
  have hkeys := (hsorted.map Prod.fst).nodup_iff.mpr (Json.nodup_keys_of_ascending hout)
  rw [canonicalEntries, hset _ [] hkeys]
  exact Json.sortEntries_eq_of_perm hsorted hout

section Distinct

variable {es : List (Text × Json)} (hkeys : ((es.map normalEntry).map Prod.fst).Nodup)
include hkeys

theorem canonicalEntries_eq_sortEntries :
    canonicalEntries es = Json.sortEntries (es.map normalEntry) :=
  canonicalEntries_eq (Json.sortEntries_perm _).symm (Json.ascending_sortEntries hkeys)

theorem canonicalEntries_perm : (canonicalEntries es).Perm (es.map normalEntry) := by
  rw [canonicalEntries_eq_sortEntries hkeys]
  exact Json.sortEntries_perm _

theorem ascending_canonicalEntries : (canonicalEntries es).Pairwise fun a b => a.1 < b.1 := by
  rw [canonicalEntries_eq_sortEntries hkeys]
  exact Json.ascending_sortEntries hkeys

end Distinct

/-- Entries whose keys are in normal form and differ are put into key order, and no more. -/
theorem canonicalEntries_eq_of_perm {es out : List (Text × Json)} (hperm : es.Perm out)
    (hout : out.Pairwise fun a b => a.1 < b.1) (hnfc : ∀ e ∈ out, e.1.nfc = e.1) :
    canonicalEntries es = out := by
  refine canonicalEntries_eq ?_ hout
  have hsame : out.map normalEntry = out := by
    conv_rhs => rw [← List.map_id out]
    exact List.map_congr_left fun e he => Prod.ext (hnfc e he) rfl
  exact hsame ▸ hperm.map normalEntry

end Data

/-! ## What a value says -/

/-- A key in normal form. -/
def Key.normal : Key → Key
  | .text t => .text t.nfc
  | k => k

namespace Data

mutual

/-- A value with its texts and keys in normal form and with lists for tuples. -/
def normal : Data → Data
  | .text t => .text t.nfc
  | .list xs => .list (normalItems xs)
  | .tuple xs => .list (normalItems xs)
  | .dict es => .dict (normalEntries es)
  | d => d

def normalItems : List Data → List Data
  | [] => []
  | x :: xs => normal x :: normalItems xs

def normalEntries : List (Key × Data) → List (Key × Data)
  | [] => []
  | (k, v) :: es => (k.normal, normal v) :: normalEntries es

end

theorem normalItems_eq (xs : List Data) : normalItems xs = xs.map normal := by
  induction xs with
  | nil => rfl
  | cons x xs ih => rw [normalItems, ih, List.map_cons]

theorem normalEntries_eq (es : List (Key × Data)) :
    normalEntries es = es.map fun e => (e.1.normal, e.2.normal) := by
  induction es with
  | nil => rfl
  | cons e es ih => rw [normalEntries, ih, List.map_cons]

theorem mem_parts_normal {d p : Data} (hp : p ∈ d.parts) : p.normal ∈ d.normal.parts := by
  cases d with
  | list xs | tuple xs =>
    rw [normal, parts, normalItems_eq]
    exact List.mem_map_of_mem hp
  | dict es =>
    obtain ⟨e, he, rfl⟩ := List.mem_map.mp hp
    rw [normal, parts, normalEntries_eq, List.map_map]
    exact List.mem_map_of_mem (f := fun e : Key × Data => e.2.normal) he
  | _ => cases hp

end Data

/-! ## Documents as values -/

namespace Json

mutual

/-- Different documents are different values. -/
theorem toData_inj {j k : Json} (h : j.toData = k.toData) : j = k := by
  match j with
  | .list xs =>
    cases k with
    | list ys => rw [toDataItems_inj (Data.list.inj h)]
    | _ => cases h
  | .dict es =>
    cases k with
    | dict fs => rw [toDataEntries_inj (Data.dict.inj h)]
    | _ => cases h
  | .null | .bool _ | .int _ | .double _ | .text _ => cases k <;> simp_all [toData]

theorem toDataItems_inj {xs ys : List Json} (h : toDataItems xs = toDataItems ys) : xs = ys := by
  match xs, ys with
  | [], [] => rfl
  | x :: xs, y :: ys =>
    rw [toDataItems, toDataItems, List.cons.injEq] at h
    rw [toData_inj h.1, toDataItems_inj h.2]

theorem toDataEntries_inj {es fs : List (Text × Json)} (h : toDataEntries es = toDataEntries fs) :
    es = fs := by
  match es, fs with
  | [], [] => rfl
  | (k, v) :: es, (l, w) :: fs =>
    rw [toDataEntries, toDataEntries, List.cons.injEq, Prod.mk.injEq, Key.text.injEq] at h
    rw [h.1.1, toData_inj h.1.2, toDataEntries_inj h.2]

end

theorem toDataEntries_eq_map (es : List (Text × Json)) :
    toDataEntries es = es.map fun e => (.text e.1, e.2.toData) := by
  rw [toDataEntries_eq, textEntries, List.map_map]
  rfl

theorem fitsItems_iff {xs : List Json} : fitsItems xs = true ↔ ∀ x ∈ xs, x.fits = true := by
  induction xs with
  | nil => simp [fitsItems]
  | cons x xs ih => simp [fitsItems, ih]

theorem fitsEntries_iff {es : List (Text × Json)} :
    fitsEntries es = true ↔ ∀ e ∈ es, e.2.fits = true := by
  induction es with
  | nil => simp [fitsEntries]
  | cons e es ih =>
    rw [fitsEntries, Bool.and_eq_true, ih, List.forall_mem_cons]

end Json

/-! ## Canonical documents -/

namespace Data

/-- The document says what the value says, its entries are in key order, and nothing is lost in
writing it when its integers fit. -/
structure Depicts (d : Data) (j : Json) : Prop where
  same : d.normal.Reordered j.toData
  ascending : j.toData.Everywhere AscendingKeys
  faithful : j.fits = true → j.Faithful

theorem Depicts.list {xs : List Data} {js : List Json} (h : List.Forall₂ Depicts xs js) :
    Depicts (.list xs) (.list js) where
  same := by
    rw [normal, Json.toData, normalItems_eq, Json.toDataItems_eq]
    refine .list (List.forall₂_map_left_iff.mpr (List.forall₂_map_right_iff.mpr ?_))
    exact h.imp fun _ _ => Depicts.same
  ascending := by
    refine .intro trivial fun p hp => ?_
    rw [Json.toData, parts, Json.toDataItems_eq] at hp
    obtain ⟨j, hj, rfl⟩ := List.mem_map.mp hp
    obtain ⟨x, -, hx⟩ := exists_of_forall₂ h hj
    exact hx.ascending
  faithful := by
    refine fun hfits => Json.faithfulItems_of_forall fun j hj => ?_
    obtain ⟨x, -, hx⟩ := exists_of_forall₂ h hj
    exact hx.faithful (Json.fitsItems_iff.mp hfits j hj)

theorem Depicts.tuple {xs : List Data} {js : List Json} (h : List.Forall₂ Depicts xs js) :
    Depicts (.tuple xs) (.list js) :=
  ⟨(Depicts.list h).same, (Depicts.list h).ascending, (Depicts.list h).faithful⟩

/-- An entry of a document has the key of an entry of a value and depicts what is there. -/
def DepictsEntry (e : Key × Data) (o : Text × Json) : Prop := e.1 = .text o.1 ∧ Depicts e.2 o.2

theorem Depicts.dict {es : List (Key × Data)} {os : List (Text × Json)}
    (h : List.Forall₂ DepictsEntry es os) (hkeys : (Data.dict es).normal.DistinctKeys) :
    Depicts (.dict es) (.dict (canonicalEntries os)) := by
  have hnodup : ((os.map normalEntry).map Prod.fst).Nodup := by
    have hsame : es.map (fun e => e.1.normal) = os.map fun o => .text o.1.nfc := by
      rw [← List.forall₂_eq_eq_eq, List.forall₂_map_left_iff, List.forall₂_map_right_iff]
      refine h.imp fun e o he => ?_
      rw [he.1]
      rfl
    have hnormal : (es.map fun e => e.1.normal).Nodup := by
      have hdistinct : ((normalEntries es).map Prod.fst).Nodup := hkeys
      rwa [normalEntries_eq, List.map_map] at hdistinct
    rw [hsame] at hnormal
    refine List.Nodup.of_map Key.text ?_
    rwa [List.map_map, List.map_map]
  have hperm := canonicalEntries_perm hnodup
  have hascending := ascending_canonicalEntries hnodup
  have hvalue : ∀ o ∈ canonicalEntries os, ∃ d, Depicts d o.2 := by
    intro o ho
    obtain ⟨o', ho', rfl⟩ := List.mem_map.mp (hperm.mem_iff.mp ho)
    obtain ⟨e, -, -, he⟩ := exists_of_forall₂ h ho'
    exact ⟨e.2, he⟩
  refine ⟨?_, ?_, ?_⟩
  · rw [normal, Json.toData, normalEntries_eq, Json.toDataEntries_eq_map]
    refine .dict ?_ (hperm.symm.map _)
    rw [List.forall₂_map_left_iff, List.forall₂_map_right_iff, List.forall₂_map_right_iff]
    refine h.imp ?_
    rintro ⟨_, v⟩ o ⟨rfl, ho⟩
    exact .key _ ho.same
  · rw [Json.toData, Json.toDataEntries_eq_map]
    refine .intro (List.pairwise_map.mpr (hascending.imp .text)) fun p hp => ?_
    rw [parts, List.map_map] at hp
    obtain ⟨o, ho, rfl⟩ := List.mem_map.mp hp
    obtain ⟨d, hd⟩ := hvalue o ho
    exact hd.ascending
  · intro hfits
    refine ⟨Json.nodup_keys_of_ascending hascending, Json.faithfulEntries_of_forall fun o ho => ?_⟩
    obtain ⟨d, hd⟩ := hvalue o ho
    exact hd.faithful (Json.fitsEntries_iff.mp hfits o ho)

/-! ## From values to documents -/

theorem canonicalItems_eq_ok {path : Text} {index : Nat} {xs : List Data} {js : List Json}
    (h : canonicalItems path index xs = .ok js) :
    List.Forall₂ (fun x j => ∃ path, x.canonicalAt path = .ok j) xs js := by
  induction xs generalizing index js with
  | nil =>
    cases h
    exact .nil
  | cons x xs ih =>
    obtain ⟨j, hj, h⟩ := bind_eq_ok h
    obtain ⟨js, hjs, h⟩ := bind_eq_ok h
    cases h
    exact .cons ⟨_, hj⟩ (ih hjs)

/-- Items are taken one by one, whatever the path to them. -/
theorem canonicalItems_of_forall₂ {xs : List Data} {js : List Json}
    (h : List.Forall₂ (fun x j => ∀ path, x.canonicalAt path = .ok j) xs js) (path : Text)
    (index : Nat) : canonicalItems path index xs = .ok js := by
  induction h generalizing index with
  | nil => rfl
  | cons hx _ ih =>
    rw [canonicalItems, hx, ih]
    rfl

theorem canonicalFields_of_forall₂ {es : List (Text × Data)} {os : List (Text × Json)}
    (h : List.Forall₂ (fun e o => e.1 = o.1 ∧ ∀ path, e.2.canonicalAt path = .ok o.2) es os)
    (path : Text) : canonicalFields path (textEntries es) = .ok os := by
  induction h with
  | nil => rfl
  | @cons e o _ _ he _ ih =>
    rw [textEntries] at ih
    rw [textEntries, List.map_cons, canonicalFields, he.2, ih, he.1]
    rfl

theorem canonicalFields_eq_ok {path : Text} {es : List (Key × Data)} {os : List (Text × Json)}
    (h : canonicalFields path es = .ok os) :
    List.Forall₂ (fun e o => e.1 = .text o.1 ∧ ∃ path, e.2.canonicalAt path = .ok o.2) es os := by
  induction es generalizing os with
  | nil =>
    cases h
    exact .nil
  | cons e es ih =>
    obtain ⟨k, v⟩ := e
    cases k with
    | text k =>
      obtain ⟨j, hj, h⟩ := bind_eq_ok h
      obtain ⟨os, hos, h⟩ := bind_eq_ok h
      cases h
      exact .cons ⟨rfl, _, hj⟩ (ih hos)
    | _ => cases h

/-- The canonical document of a value depicts it. -/
theorem depicts_of_canonicalAt {path : Text} {d : Data} {j : Json} (h : d.canonicalAt path = .ok j)
    (hkeys : d.normal.Everywhere DistinctKeys) : Depicts d j := by
  induction d using induction_parts generalizing path j with
  | step d ih =>
    have hpart : ∀ p ∈ d.parts, ∀ j, (∃ path, p.canonicalAt path = .ok j) → Depicts p j :=
      fun p hp j ⟨_, hj⟩ => ih p hp hj (hkeys.part (mem_parts_normal hp))
    cases d with
    | null | bool | text =>
      cases h
      exact ⟨.same _, .intro trivial fun _ hp => (nomatch hp), fun _ => trivial⟩
    | int =>
      cases h
      exact ⟨.same _, .intro trivial fun _ hp => (nomatch hp), id⟩
    | double | bytes | other => cases h
    | list xs =>
      obtain ⟨js, hjs, rfl⟩ := map_eq_ok h
      exact .list (forall₂_imp_mem (canonicalItems_eq_ok hjs) hpart)
    | tuple xs =>
      obtain ⟨js, hjs, rfl⟩ := map_eq_ok h
      exact .tuple (forall₂_imp_mem (canonicalItems_eq_ok hjs) hpart)
    | dict es =>
      obtain ⟨os, hos, rfl⟩ := map_eq_ok h
      refine .dict (forall₂_imp_mem (canonicalFields_eq_ok hos) fun e he o ho => ?_) hkeys.here
      exact ⟨ho.1, hpart e.2 (List.mem_map_of_mem he) o.2 ho.2⟩

/-! ## From documents to texts -/

theorem canonicalText_eq_ok_iff {d : Data} {t : Text} : d.canonicalText = .ok t ↔
    ∃ j, d.canonicalJson = .ok j ∧ j.fits = true ∧ j.compact = t := by
  constructor
  · intro h
    obtain ⟨j, hj, h⟩ := bind_eq_ok h
    split at h
    · next hfits => exact ⟨j, hj, hfits, Except.ok.inj h⟩
    · cases h
  · rintro ⟨j, hj, hfits, rfl⟩
    rw [canonicalText, hj]
    exact if_pos hfits

/-- Two values have one canonical text when they are one value in normal form, up to the order of
entries, and only then. No dictionary may have two keys with one normal form. -/
theorem canonicalText_eq_iff {x y : Data} {s t : Text} (hx : x.canonicalText = .ok s)
    (hy : y.canonicalText = .ok t) (hxkeys : x.normal.Everywhere DistinctKeys)
    (hykeys : y.normal.Everywhere DistinctKeys) : s = t ↔ x.normal.Reordered y.normal := by
  obtain ⟨j, hj, hjfits, rfl⟩ := canonicalText_eq_ok_iff.mp hx
  obtain ⟨k, hk, hkfits, rfl⟩ := canonicalText_eq_ok_iff.mp hy
  have hxj := depicts_of_canonicalAt hj hxkeys
  have hyk := depicts_of_canonicalAt hk hykeys
  constructor
  · intro hsame
    have hread := Json.read_compact (hxj.faithful hjfits) (Json.Room.holds_none _)
    rw [hsame, Json.read_compact (hyk.faithful hkfits) (Json.Room.holds_none _)] at hread
    obtain rfl := Except.ok.inj hread
    exact hxj.same.trans hyk.same.symm
  · intro hreordered
    have hdocuments : j.toData.Reordered k.toData :=
      (hxj.same.symm.trans hreordered).trans hyk.same
    rw [Json.toData_inj (hdocuments.eq_of_ascending hxj.ascending hyk.ascending)]

/-! ## Two spellings -/

/-- A dictionary with a letter for a key. -/
def composed : Data := .dict [(.text [0xE9], .bool true), (.text [0x61], .tuple [])]

/-- The same dictionary in another order, with a list, and with the letter in its other spelling. -/
def decomposed : Data := .dict [(.text [0x61], .list []), (.text [0x65, 0x301], .bool true)]

theorem nfc_spellings :
    Text.nfc [0xE9] = [0xE9] ∧ Text.nfc [0x65, 0x301] = [0xE9] ∧ Text.nfc [0x61] = [0x61] := by
  decide +kernel

theorem normal_composed :
    composed.normal = .dict [(.text [0xE9], .bool true), (.text [0x61], .list [])] := by
  simp only [composed, normal, normalEntries, normalItems, Key.normal, nfc_spellings]

theorem normal_decomposed :
    decomposed.normal = .dict [(.text [0x61], .list []), (.text [0xE9], .bool true)] := by
  simp only [decomposed, normal, normalEntries, normalItems, Key.normal, nfc_spellings]

theorem canonicalText_spelled {d : Data} {es : List (Text × Json)}
    (hd : d.canonicalJson = .ok (.dict (canonicalEntries es)))
    (hes : (es.map normalEntry).Perm [([0x61], .list []), ([0xE9], .bool true)]) :
    d.canonicalText = .ok (Json.dict [([0x61], .list []), ([0xE9], .bool true)]).compact := by
  have hentries := canonicalEntries_eq hes (by simp; decide)
  exact canonicalText_eq_ok_iff.mpr ⟨_, hd.trans (by rw [hentries]), rfl, rfl⟩

/-- Spelling, order and the kind of list make no difference. -/
theorem canonicalText_eq_iff_spellings : ∃ s, composed.canonicalText = .ok s ∧
    decomposed.canonicalText = .ok s ∧ composed.normal.Everywhere DistinctKeys ∧
    decomposed.normal.Everywhere DistinctKeys ∧ composed.normal.Reordered decomposed.normal := by
  have hx := canonicalText_spelled (d := composed) rfl <| by
    simp only [List.map, normalEntry, nfc_spellings]
    exact .swap ..
  have hy := canonicalText_spelled (d := decomposed) rfl <| by
    simp only [List.map, normalEntry, nfc_spellings]
    exact .refl _
  have hleaves : ∀ es : List (Key × Data), (es.map Prod.fst).Nodup →
      (∀ e ∈ es, e.2.parts = [] ∧ e.2.DistinctKeys) → (Data.dict es).Everywhere DistinctKeys := by
    refine fun es hkeys hes => .intro hkeys fun p hp => ?_
    obtain ⟨e, he, rfl⟩ := List.mem_map.mp hp
    exact .intro (hes e he).2 fun q hq => nomatch ((hes e he).1 ▸ hq : q ∈ [])
  have hxkeys : composed.normal.Everywhere DistinctKeys :=
    normal_composed ▸ hleaves _ (by decide) (by simp [parts, DistinctKeys])
  have hykeys : decomposed.normal.Everywhere DistinctKeys :=
    normal_decomposed ▸ hleaves _ (by decide) (by simp [parts, DistinctKeys])
  exact ⟨_, hx, hy, hxkeys, hykeys, (canonicalText_eq_iff hx hy hxkeys hykeys).mp rfl⟩

end Data

end ProofLedger
