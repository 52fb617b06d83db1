import Mathlib.Data.List.Nodup
import ProofLedger.Data.Basic
import ProofLedger.Json.Basic

/-!
# Entries of a dictionary

What is found in a dictionary after an entry was set (`valueAt?_setEntry`), and which keys it has
then (`keys_setEntry`). Both are about keys that are texts: such a key names the same entry as
another only if the two are equal, whereas numbers of different kinds may name one entry.
-/

namespace ProofLedger

namespace Key

theorem same_text (k : Key) (t : Text) : k.same (.text t) = (k == .text t) := by
  cases k with
  | double d =>
    simp only [same, integer?]
    cases d.toInt? <;> rfl
  | _ => rfl

theorem text_same (t : Text) (k : Key) : (Key.text t).same k = (.text t == k) := by
  cases k with
  | double d =>
    simp only [same, integer?]
    cases d.toInt? <;> rfl
  | _ => rfl

end Key

variable {α : Type} {es : List (Key × α)} {name : Text} {v : α}

theorem valueAt?_cons (k : Key) (v : α) (es : List (Key × α)) (name : Text) :
    valueAt? ((k, v) :: es) name = if k = .text name then some v else valueAt? es name := by
  by_cases hk : k = .text name
  · simp [valueAt?, hk]
  · have hne : (k == Key.text name) = false := by simpa using hk
    rw [valueAt?, List.find?_cons, hne, if_neg hk]
    rfl

theorem valueAt?_eq_none (h : Key.text name ∉ es.map Prod.fst) : valueAt? es name = none := by
  rw [valueAt?, Option.map_eq_none_iff, List.find?_eq_none]
  intro e he hname
  exact h (List.mem_map.mpr ⟨e, he, beq_iff_eq.mp hname⟩)

theorem mem_of_valueAt? (h : valueAt? es name = some v) : (.text name, v) ∈ es := by
  obtain ⟨e, hfound, rfl⟩ := Option.map_eq_some_iff.mp h
  have hname : e.1 = .text name := by simpa using List.find?_some hfound
  exact hname ▸ List.mem_of_find?_eq_some hfound

/-- An entry that is set is found under its key, and every other as before. -/
theorem valueAt?_setEntry (es : List (Key × α)) (k : Key) (v : α) (name : Text) :
    valueAt? (setEntry es k v) name = if k = .text name then some v else valueAt? es name := by
  induction es with
  | nil => exact valueAt?_cons k v [] name
  | cons e es ih =>
    obtain ⟨k', v'⟩ := e
    have hkeys : k'.same k = true → (k' = .text name ↔ k = .text name) := by
      intro hsame
      constructor
      · rintro rfl
        rw [Key.text_same, beq_iff_eq] at hsame
        exact hsame.symm
      · rintro rfl
        rwa [Key.same_text, beq_iff_eq] at hsame
    rw [setEntry]
    split
    · next hsame =>
      rw [valueAt?_cons, valueAt?_cons]
      simp only [hkeys hsame]
      split <;> rfl
    · next hother =>
      rw [valueAt?_cons, valueAt?_cons, ih]
      split
      · next hk' =>
        have hk : k ≠ .text name := by
          rintro rfl
          rw [hk', Key.same_text, beq_self_eq_true] at hother
          exact hother rfl
        rw [if_neg hk]
      · rfl

/-- A text that is no key yet becomes the last key. -/
theorem keys_setEntry (es : List (Key × α)) (t : Text) (v : α) :
    (setEntry es (.text t) v).map Prod.fst =
      if Key.text t ∈ es.map Prod.fst then es.map Prod.fst else es.map Prod.fst ++ [.text t] := by
  induction es with
  | nil => rfl
  | cons e es ih =>
    obtain ⟨k, v'⟩ := e
    rw [setEntry, Key.same_text]
    by_cases hk : k = .text t
    · simp [hk]
    · rw [if_neg (by simpa using hk), List.map_cons, ih, List.map_cons]
      by_cases hmem : Key.text t ∈ es.map Prod.fst
      · rw [if_pos hmem, if_pos (List.mem_cons_of_mem _ hmem)]
      · rw [if_neg hmem, if_neg (by simpa using ⟨Ne.symm hk, by simpa using hmem⟩)]
        rfl

theorem nodup_setEntry (h : (es.map Prod.fst).Nodup) (t : Text) (v : α) :
    ((setEntry es (.text t) v).map Prod.fst).Nodup := by
  rw [keys_setEntry]
  split
  · exact h
  · next hnew =>
    rw [← List.concat_eq_append]
    exact h.concat hnew

/-- What a dictionary holds after an entry was set, it held before, or it is what was set. -/
theorem mem_setEntry {k : Key} {e : Key × α} (h : e ∈ setEntry es k v) : e ∈ es ∨ e.2 = v := by
  induction es with
  | nil =>
    rw [List.mem_singleton.mp h]
    exact .inr rfl
  | cons e' es ih =>
    rw [setEntry] at h
    split at h
    · rcases List.mem_cons.mp h with rfl | h
      · exact .inr rfl
      · exact .inl (List.mem_cons_of_mem _ h)
    · rcases List.mem_cons.mp h with rfl | h
      · exact .inl List.mem_cons_self
      · exact (ih h).imp_left (List.mem_cons_of_mem _)

/-! ## Entries in order -/

/-- No entry comes after one with a greater key. -/
theorem Json.pairwise_sortEntries (es : List (Text × α)) :
    (Json.sortEntries es).Pairwise fun a b => ¬ b.1 < a.1 := by
  refine (List.pairwise_mergeSort (fun a b c => ?_) (fun a b => ?_) es).imp (by simp)
  · simp only [Bool.not_eq_true', decide_eq_false_iff_not]
    exact fun hab hbc => List.le_trans hab hbc
  · simp only [Bool.or_eq_true, Bool.not_eq_true', decide_eq_false_iff_not]
    exact List.le_total a.1 b.1

end ProofLedger
