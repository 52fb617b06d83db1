import Mathlib.Data.List.Dedup
import Mathlib.Data.List.Induction
import ProofLedger.Proofs.Digest.Canonical

/-!
# What becomes of the members of a dictionary

A canonical dictionary has one member for each normal form that its keys have
(`length_canonicalEntries`). Of the members whose keys have one normal form, it is the last in the
order of the keys as they are given whose value stays: the bearer of the name
(`find?_canonicalEntries`). No key is there twice, so the document reads back from its text whatever
the keys were (`faithful_of_canonicalAt`).
-/

namespace ProofLedger

/-! ## Setting entries -/

namespace Json

variable {α : Type} {es : List (Text × α)}

theorem find?_setEntry (es : List (Text × α)) (k : Text) (v : α) (name : Text) :
    (setEntry es k v).find? (·.1 == name) =
      if k = name then some (k, v) else es.find? (·.1 == name) := by
  induction es with
  | nil =>
    by_cases hk : k = name
    · simp [setEntry, hk]
    · simp [setEntry, hk]
  | cons e es ih =>
    obtain ⟨k', v'⟩ := e
    rw [setEntry]
    by_cases hk' : k' = k
    · subst hk'
      by_cases hk : k' = name
      · simp [hk]
      · simp [hk]
    · rw [if_neg hk', List.find?_cons, List.find?_cons, ih]
      by_cases hname : k' = name
      · have hk : k ≠ name := fun hk => hk' (hname.trans hk.symm)
        simp [hname, hk]
      · have hbeq : (k' == name) = false := beq_eq_false_iff_ne.mpr hname
        simp only [hbeq]

theorem keys_setEntry (es : List (Text × α)) (k : Text) (v : α) :
    (setEntry es k v).map Prod.fst =
      if k ∈ es.map Prod.fst then es.map Prod.fst else es.map Prod.fst ++ [k] := by
  by_cases hmem : k ∈ es.map Prod.fst
  · rw [if_pos hmem]
    induction es with
    | nil => cases hmem
    | cons e es ih =>
      rw [setEntry]
      by_cases hk : e.1 = k
      · rw [if_pos hk, List.map_cons, List.map_cons, hk]
      · rw [if_neg hk, List.map_cons, List.map_cons,
          ih ((List.mem_cons.mp hmem).resolve_left (Ne.symm hk))]
  · rw [if_neg hmem, setEntry_fresh v hmem, List.map_append]
    rfl

/-- Where no key is there twice, the entry under a name is the one that is found. -/
theorem find?_eq_some_iff (hkeys : (es.map Prod.fst).Nodup) {name : Text} {e : Text × α} :
    es.find? (·.1 == name) = some e ↔ e ∈ es ∧ e.1 = name := by
  constructor
  · intro h
    exact ⟨List.mem_of_find?_eq_some h, by simpa using List.find?_some h⟩
  · rintro ⟨he, rfl⟩
    induction es with
    | nil => cases he
    | cons a es ih =>
      rw [List.map_cons, List.nodup_cons] at hkeys
      rw [List.find?_cons]
      rcases List.mem_cons.mp he with rfl | he
      · simp
      · have hne : (a.1 == e.1) = false :=
          beq_eq_false_iff_ne.mpr fun heq => hkeys.1 (heq ▸ List.mem_map_of_mem he)
        rw [hne]
        exact ih hkeys.2 he

/-- The order of entries makes no difference to what is found. -/
theorem find?_eq_of_perm {out : List (Text × α)} (hperm : es.Perm out)
    (hkeys : (es.map Prod.fst).Nodup) (name : Text) :
    es.find? (·.1 == name) = out.find? (·.1 == name) := by
  have hout := (hperm.map Prod.fst).nodup_iff.mp hkeys
  ext e
  rw [find?_eq_some_iff hkeys, find?_eq_some_iff hout, hperm.mem_iff]

end Json

namespace Data

/-! ## Bearers of names -/

/-- Of the entries whose keys have a normal form, the last one in the order of the keys as they are
given. -/
def bearer? {α : Type} (es : List (Text × α)) (name : Text) : Option (Text × α) :=
  (Json.sortEntries es).reverse.find? fun e => e.1.nfc == name

section Bearer

variable {α : Type} {es : List (Text × α)} {name : Text} {e : Text × α}

/-- The bearer of a name has the name, and no key with the name is greater than its own. -/
theorem bearer?_eq_some (h : bearer? es name = some e) :
    e ∈ es ∧ e.1.nfc = name ∧ ∀ e' ∈ es, e'.1.nfc = name → ¬ e.1 < e'.1 := by
  have hname : e.1.nfc = name := by simpa using List.find?_some h
  have hmem : e ∈ es :=
    (Json.sortEntries_perm es).mem_iff.mp (List.mem_reverse.mp (List.mem_of_find?_eq_some h))
  refine ⟨hmem, hname, fun e' he' hname' => ?_⟩
  obtain ⟨-, before, after, hsplit, hbefore⟩ := List.find?_eq_some_iff_append.mp h
  have hpairs : (before ++ e :: after).Pairwise fun a b => ¬ a.1 < b.1 := by
    rw [← hsplit, List.pairwise_reverse]
    exact Json.pairwise_sortEntries es
  have hplace : e' ∈ before ++ e :: after := by
    rw [← hsplit, List.mem_reverse]
    exact (Json.sortEntries_perm es).mem_iff.mpr he'
  rcases List.mem_append.mp hplace with hin | hin
  · exact absurd hname' (by simpa using hbefore e' hin)
  · rcases List.mem_cons.mp hin with rfl | hin
    · exact List.lt_irrefl _
    · exact List.rel_of_pairwise_cons (List.pairwise_append.mp hpairs).2.1 hin

/-- A member that is alone with its name bears it. -/
theorem bearer?_of_mem (hkeys : (es.map fun e => e.1.nfc).Nodup) (he : e ∈ es) :
    bearer? es e.1.nfc = some e := by
  have hsome : (bearer? es e.1.nfc).isSome := by
    rw [bearer?, List.find?_isSome]
    exact ⟨e, List.mem_reverse.mpr ((Json.sortEntries_perm es).mem_iff.mpr he), beq_self_eq_true _⟩
  obtain ⟨b, hb⟩ := Option.isSome_iff_exists.mp hsome
  obtain ⟨hmem, hname, -⟩ := bearer?_eq_some hb
  rw [hb, List.inj_on_of_nodup_map hkeys hmem he hname]

end Bearer

/-! ## Canonical entries -/

section Collect

/-- The entries that are set one after another under the normal forms of their keys. -/
def collected (es : List (Text × Json)) : List (Text × Json) :=
  es.foldl (fun done e => Json.setEntry done e.1.nfc e.2) []

theorem canonicalEntries_eq_collected (es : List (Text × Json)) :
    canonicalEntries es = Json.sortEntries (collected (Json.sortEntries es)) := rfl

theorem collected_concat (es : List (Text × Json)) (e : Text × Json) :
    collected (es ++ [e]) = Json.setEntry (collected es) e.1.nfc e.2 := by
  rw [collected, List.foldl_append]
  rfl

theorem find?_collected (es : List (Text × Json)) (name : Text) :
    (collected es).find? (·.1 == name) =
      (es.reverse.find? fun e => e.1.nfc == name).map normalEntry := by
  induction es using List.reverseRecOn with
  | nil => rfl
  | append_singleton es e ih =>
    rw [collected_concat, Json.find?_setEntry, List.reverse_append, List.reverse_singleton,
      List.singleton_append, List.find?_cons, ih]
    by_cases hname : e.1.nfc = name
    · rw [if_pos hname, hname, beq_self_eq_true]
      exact congrArg some (Prod.ext hname.symm rfl)
    · rw [if_neg hname, beq_eq_false_iff_ne.mpr hname]

theorem nodup_collected (es : List (Text × Json)) : ((collected es).map Prod.fst).Nodup := by
  induction es using List.reverseRecOn with
  | nil => exact List.nodup_nil
  | append_singleton es e ih =>
    rw [collected_concat, Json.keys_setEntry]
    split
    · exact ih
    · next hfresh =>
      rw [← List.concat_eq_append]
      exact ih.concat hfresh

theorem mem_keys_collected (es : List (Text × Json)) (name : Text) :
    name ∈ (collected es).map Prod.fst ↔ name ∈ es.map fun e => e.1.nfc := by
  induction es using List.reverseRecOn with
  | nil => exact Iff.rfl
  | append_singleton es e ih =>
    rw [collected_concat, Json.keys_setEntry, List.map_append, List.mem_append, ← ih,
      List.map_singleton, List.mem_singleton]
    split
    · next hmem =>
      refine (or_iff_left_of_imp ?_).symm
      rintro rfl
      exact hmem
    · rw [List.mem_append, List.mem_singleton]

end Collect

section Entries

variable (es : List (Text × Json))

theorem nodup_canonicalEntries : ((canonicalEntries es).map Prod.fst).Nodup := by
  rw [canonicalEntries_eq_collected]
  exact ((Json.sortEntries_perm _).map Prod.fst).nodup_iff.mpr (nodup_collected _)

/-- Under a name there is what its bearer has. -/
theorem find?_canonicalEntries (name : Text) :
    (canonicalEntries es).find? (·.1 == name) = (bearer? es name).map normalEntry := by
  have hperm := Json.sortEntries_perm (collected (Json.sortEntries es))
  rw [canonicalEntries_eq_collected,
    ← Json.find?_eq_of_perm hperm.symm (nodup_collected _), find?_collected]
  rfl

/-- There are as many entries as the keys have normal forms. -/
theorem length_canonicalEntries :
    (canonicalEntries es).length = (es.map fun e => e.1.nfc).dedup.length := by
  have hsorted := (Json.sortEntries_perm es).map fun e => e.1.nfc
  have hperm : ((canonicalEntries es).map Prod.fst).Perm (es.map fun e => e.1.nfc).dedup := by
    refine (List.perm_ext_iff_of_nodup (nodup_canonicalEntries es) (List.nodup_dedup _)).mpr ?_
    intro name
    rw [canonicalEntries_eq_collected, ((Json.sortEntries_perm _).map Prod.fst).mem_iff,
      mem_keys_collected, hsorted.mem_iff, List.mem_dedup]
  rw [← hperm.length_eq, List.length_map]

theorem exists_of_mem_canonicalEntries {e : Text × Json} (h : e ∈ canonicalEntries es) :
    ∃ e' ∈ es, normalEntry e' = e := by
  have hfound := (Json.find?_eq_some_iff (nodup_canonicalEntries es)).mpr ⟨h, rfl⟩
  rw [find?_canonicalEntries] at hfound
  obtain ⟨e', he', heq⟩ := Option.map_eq_some_iff.mp hfound
  exact ⟨e', (bearer?_eq_some he').1, heq⟩

end Entries

/-- Nothing is lost in writing a canonical document when its integers fit. -/
theorem faithful_of_canonicalAt {path : Text} {d : Data} {j : Json}
    (h : d.canonicalAt path = .ok j) (hfits : j.fits = true) : j.Faithful := by
  induction d using induction_parts generalizing path j with
  | step d ih =>
    have hitems : ∀ {xs : List Data} {js : List Json}, (∀ x ∈ xs, x ∈ d.parts) →
        List.Forall₂ (fun x j => ∃ path, x.canonicalAt path = .ok j) xs js →
        Json.fitsItems js = true → (Json.list js).Faithful := by
      intro xs js hxs hjs hfits
      refine Json.faithfulItems_of_forall fun y hy => ?_
      obtain ⟨x, hx, _, hxy⟩ := exists_of_forall₂ hjs hy
      exact ih x (hxs x hx) hxy (Json.fitsItems_iff.mp hfits y hy)
    cases d with
    | null | bool | text =>
      cases h
      trivial
    | int =>
      cases h
      exact hfits
    | double | bytes | other => cases h
    | list xs | tuple xs =>
      obtain ⟨js, hjs, rfl⟩ := map_eq_ok h
      exact hitems (fun x hx => hx) (canonicalItems_eq_ok hjs) hfits
    | dict es =>
      obtain ⟨os, hos, rfl⟩ := map_eq_ok h
      refine ⟨nodup_canonicalEntries os, Json.faithfulEntries_of_forall fun o ho => ?_⟩
      obtain ⟨o', ho', rfl⟩ := exists_of_mem_canonicalEntries os ho
      obtain ⟨e, he, -, _, hvalue⟩ := exists_of_forall₂ (canonicalFields_eq_ok hos) ho'
      exact ih e.2 (List.mem_map_of_mem he) hvalue (Json.fitsEntries_iff.mp hfits _ ho)

end Data

end ProofLedger
