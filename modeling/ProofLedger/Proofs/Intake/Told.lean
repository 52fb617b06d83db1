import ProofLedger.Intake.Fields
import ProofLedger.Proofs.Json.CodePoints
import ProofLedger.Proofs.Outcome

/-!
# Issues that can be told

The message of a broken rule may hold a lone surrogate, and then nobody can be told of the issue.
`Told` says that every issue of a check can be told, and so that its refusal can
(`told_iff_of_refusal`). It passes through everything that checks are put together with, and the
scalars have no rules at all: only a rule of the domain can fail to be told.
-/

namespace ProofLedger

theorem Text.scalar_append_iff {s t : Text} : (s ++ t).Scalar ↔ s.Scalar ∧ t.Scalar := by
  rw [Scalar, List.all_append, Bool.and_eq_true_iff]
  rfl

theorem Text.scalar_append {s t : Text} (hs : s.Scalar) (ht : t.Scalar) : (s ++ t).Scalar :=
  scalar_append_iff.mpr ⟨hs, ht⟩

theorem Text.scalar_ofInt (n : Int) : (ofInt n).Scalar :=
  List.all_eq_true.mpr fun c hc => Json.isScalar_of_printable c (Json.printable_ofInt n c hc)

theorem Issue.unencodable?_rule_iff {path : List Place} {message : Text} {d : Data} :
    unencodable? ⟨path, .rule message, d⟩ = none ↔ message.Scalar := by
  by_cases h : message.Scalar
  · exact iff_of_true (if_pos h) h
  · have hsome : unencodable? ⟨path, .rule message, d⟩ = some (.locate 0 message) := if_neg h
    exact iff_of_false (fun hnone => nomatch hsome.symm.trans hnone) h

namespace Checked

variable {α β : Type}

/-- Every issue of a check can be told. -/
def Told (a : Checked α) : Prop := ∀ e ∈ a.issues, e.unencodable? = none

theorem told_ok (x : α) : Told (.ok x : Checked α) := nofun

theorem told_fail_iff {cause : Cause} {d : Data} :
    Told (.fail cause d : Checked α) ↔ Issue.unencodable? ⟨[], cause, d⟩ = none :=
  List.forall_mem_singleton

theorem issues_both (a : Checked α) (b : Checked β) :
    (a.both b).issues = a.issues ++ b.issues := by
  cases a <;> cases b <;> rfl

theorem told_both_iff {a : Checked α} {b : Checked β} : Told (a.both b) ↔ Told a ∧ Told b := by
  rw [Told, issues_both, List.forall_mem_append]
  rfl

theorem Told.both {a : Checked α} {b : Checked β} (ha : Told a) (hb : Told b) : Told (a.both b) :=
  told_both_iff.mpr ⟨ha, hb⟩

theorem told_map_iff {a : Checked α} {f : α → β} : Told (a.map f : Checked β) ↔ Told a := by
  cases a <;> rfl

theorem Told.map {a : Checked α} (ha : Told a) (f : α → β) : Told (a.map f : Checked β) :=
  told_map_iff.mpr ha

/-- Where an issue is has nothing to do with what is told of it. -/
theorem told_under_iff {a : Checked α} {place : Place} : Told (a.under place) ↔ Told a := by
  cases a with
  | ok x => rfl
  | error es => exact List.forall_mem_map

theorem Told.bind {a : Checked α} {f : α → Checked β} (ha : Told a)
    (hf : ∀ x, a = .ok x → Told (f x)) : Told (a >>= f) := by
  cases a with
  | ok x => exact hf x rfl
  | error es => exact ha

theorem told_items {check : Data → Checked α} (h : ∀ d, Told (check d)) (xs : List Data) :
    Told (items check xs) := by
  suffices ∀ index, Told (itemsFrom check index xs) from this 0
  induction xs with
  | nil => exact fun _ => told_ok _
  | cons x xs ih => exact fun index => ((told_under_iff.mpr (h x)).both (ih (index + 1))).map _

/-- A refusal can be told when every issue can. -/
theorem told_iff_of_refusal {a : Checked α} {model : Text} {r : Refusal}
    (h : a.mapError (⟨model, ·⟩) = .error r) : r.unencodable? = none ↔ Told a := by
  obtain ⟨es, rfl, rfl⟩ := mapError_eq_error h
  exact List.findSome?_eq_none_iff

end Checked

open Checked

namespace Intake

variable {α : Type}

theorem told_required_iff {fields : Fields} {name : Text} {check : Data → Checked α} {d : Data}
    (hd : valueAt? fields name = some d) : Told (required fields name check) ↔ Told (check d) := by
  rw [required, hd]
  exact told_under_iff

theorem told_required {fields : Fields} {name : Text} {check : Data → Checked α}
    (h : ∀ d, Told (check d)) : Told (required fields name check) := by
  cases hd : valueAt? fields name with
  | none =>
    rw [required, hd]
    exact told_under_iff.mpr (told_fail_iff.mpr rfl)
  | some d => exact (told_required_iff hd).mpr (h d)

theorem told_optional {fields : Fields} {name : Text} {default : α} {check : Data → Checked α}
    (h : ∀ d, Told (check d)) : Told (optional fields name default check) := by
  unfold optional
  split
  · exact told_under_iff.mpr (h _)
  · exact told_ok _

/-- What is said of an entry too many does not repeat it. -/
theorem unencodable?_strayIssue (e : Key × Data) : (strayIssue e).unencodable? = none := by
  unfold strayIssue
  split <;> rfl

theorem told_closed {fields : Fields} {names : List Text} {checked : Checked α}
    (h : Told checked) : Told (closed fields names checked) := by
  unfold closed
  split
  · split
    · exact h
    · exact told_fail_iff.mpr rfl
  · split
    · exact h
    · intro e he
      rcases List.mem_append.mp he with he | he
      · exact h e he
      · obtain ⟨entry, -, rfl⟩ := List.mem_map.mp he
        exact unencodable?_strayIssue entry

theorem told_model {name : Text} {build : Fields → Checked α} (h : ∀ es, Told (build es))
    (d : Data) : Told (model name build d) := by
  unfold model
  split
  · exact h _
  · exact told_fail_iff.mpr rfl

theorem told_sequence {cause : Cause} (hcause : ∀ m, cause ≠ .rule m) {check : Data → Checked α}
    (h : ∀ d, Told (check d)) (d : Data) : Told (sequence cause check d) := by
  unfold sequence
  split
  · exact told_items h _
  · exact told_items h _
  · refine told_fail_iff.mpr ?_
    cases cause with
    | rule m => exact absurd rfl (hcause m)
    | _ => rfl

theorem told_text (d : Data) : Told (text d) := by
  unfold text
  split
  · exact told_ok _
  · split
    · exact told_ok _
    · exact told_fail_iff.mpr rfl
  · exact told_fail_iff.mpr rfl

theorem told_name (d : Data) : Told (name d) := by
  refine (told_text d).bind fun t _ => ?_
  split
  · split
    · exact told_ok _
    · exact told_fail_iff.mpr rfl
  · exact told_fail_iff.mpr rfl

theorem told_intOfText (d : Data) (t : Text) : Told (intOfText d t) := by
  unfold intOfText
  split
  · exact told_fail_iff.mpr rfl
  · next numeral _ =>
    rcases cutMinus numeral with ⟨negative, body⟩
    dsimp only
    split
    · exact told_fail_iff.mpr rfl
    · split
      · exact told_fail_iff.mpr rfl
      · split
        · exact told_ok _
        · exact told_fail_iff.mpr rfl

theorem told_intOfWorth (d : Data) (worth : Worth) : Told (intOfWorth d worth) := by
  cases worth with
  | int n => exact told_ok n
  | _ => exact told_fail_iff.mpr rfl

theorem told_int (d : Data) : Told (int d) := by
  unfold int
  split
  · exact told_ok _
  · exact told_ok _
  · split
    · exact told_fail_iff.mpr rfl
    · split
      · exact told_fail_iff.mpr rfl
      · split
        · exact told_ok _
        · exact told_fail_iff.mpr rfl
  · split
    · exact told_intOfText _ _
    · exact told_fail_iff.mpr rfl
  · split
    · exact told_intOfText _ _
    · exact told_fail_iff.mpr rfl
  · exact told_intOfWorth _ _
  · exact told_fail_iff.mpr rfl

theorem told_nat (d : Data) : Told (nat d) := by
  refine (told_int d).bind fun n _ => ?_
  split
  · exact told_ok _
  · exact told_fail_iff.mpr rfl

theorem told_doubleOfText (d : Data) (t : Text) : Told (doubleOfText d t) := by
  unfold doubleOfText
  split
  · exact told_ok _
  · exact told_fail_iff.mpr rfl

theorem told_double (d : Data) : Told (double d) := by
  unfold double
  split
  · exact told_ok _
  · split
    · exact told_ok _
    · exact told_fail_iff.mpr rfl
  · exact told_ok _
  · split
    · exact told_doubleOfText _ _
    · exact told_fail_iff.mpr rfl
  · split
    · exact told_doubleOfText _ _
    · exact told_fail_iff.mpr rfl
  · exact told_fail_iff.mpr rfl

theorem told_nonNegative (d : Data) : Told (nonNegative d) := by
  refine (told_double d).bind fun x _ => ?_
  split
  · exact told_ok _
  · exact told_fail_iff.mpr rfl

theorem told_positive (d : Data) : Told (positive d) := by
  refine (told_double d).bind fun x _ => ?_
  split
  · exact told_ok _
  · exact told_fail_iff.mpr rfl

theorem told_boolOfText (d : Data) (t : Text) : Told (boolOfText d t) := by
  unfold boolOfText
  split
  · exact told_ok _
  · exact told_fail_iff.mpr rfl

theorem told_boolOfInt (d : Data) (n : Int) : Told (boolOfInt d n) := by
  unfold boolOfInt
  split
  · exact told_ok _
  · split
    · exact told_ok _
    · exact told_fail_iff.mpr rfl

theorem told_bool (d : Data) : Told (bool d) := by
  unfold bool
  split
  · exact told_ok _
  · split
    · exact told_boolOfInt _ _
    · exact told_fail_iff.mpr rfl
  · split
    · split
      · exact told_boolOfInt _ _
      · exact told_fail_iff.mpr rfl
    · exact told_fail_iff.mpr rfl
  · split
    · exact told_boolOfText _ _
    · exact told_fail_iff.mpr rfl
  · split
    · exact told_boolOfText _ _
    · exact told_fail_iff.mpr rfl
  · exact told_fail_iff.mpr rfl

theorem told_literal (expected : Text) (d : Data) : Told (literal expected d) := by
  unfold literal
  split
  · split
    · exact told_ok _
    · split
      · exact told_fail_iff.mpr rfl
      · exact told_fail_iff.mpr rfl
  · exact told_fail_iff.mpr rfl

end Intake

/-! ## What cannot be told -/

namespace Checked

variable {α β : Type}

/-- The surrogates of the issues that cannot be told, in order. -/
def surrogates (a : Checked α) : List Text.Unencodable := a.issues.filterMap Issue.unencodable?

theorem surrogates_eq_nil_iff {a : Checked α} : a.surrogates = [] ↔ Told a :=
  List.filterMap_eq_nil_iff

theorem surrogates_both (a : Checked α) (b : Checked β) :
    (a.both b).surrogates = a.surrogates ++ b.surrogates := by
  rw [surrogates, issues_both, List.filterMap_append]
  rfl

theorem surrogates_map (a : Checked α) (f : α → β) :
    surrogates (a.map f : Checked β) = a.surrogates := by
  cases a <;> rfl

theorem surrogates_under (a : Checked α) (place : Place) :
    surrogates (a.under place) = a.surrogates := by
  cases a with
  | ok x => rfl
  | error es => exact List.filterMap_map

theorem surrogates_fail_rule (message : Text) (d : Data) :
    surrogates (.fail (.rule message) d : Checked α) =
      if message.Scalar then [] else [.locate 0 message] := by
  by_cases h : message.Scalar
  · simp [surrogates, fail, issues, Issue.unencodable?, h]
  · simp [surrogates, fail, issues, Issue.unencodable?, h]

/-- What cannot be told of a refusal is the first thing that cannot be told. -/
theorem unencodable?_of_refusal {a : Checked α} {model : Text} {r : Refusal}
    (h : a.mapError (⟨model, ·⟩) = .error r) : r.unencodable? = a.surrogates.head? := by
  obtain ⟨es, rfl, rfl⟩ := mapError_eq_error h
  exact List.head?_filterMap.symm

/-- Entries too many do not change what cannot be told. -/
theorem surrogates_closed (fields : Intake.Fields) (names : List Text) (a : Checked α) :
    surrogates (Intake.closed fields names a) = a.surrogates := by
  unfold Intake.closed
  split
  · split
    · rfl
    · next htold =>
      have htold : Told a := by
        intro e he
        simp only [List.any_eq_true, not_exists, not_and] at htold
        exact Option.not_isSome_iff_eq_none.mp (htold e he)
      rw [surrogates_eq_nil_iff.mpr htold]
      exact surrogates_eq_nil_iff.mpr (told_fail_iff.mpr rfl)
  · split
    · rfl
    · have hstrays : ∀ es : Intake.Fields,
          (es.map Intake.strayIssue).filterMap Issue.unencodable? = [] := by
        intro es
        rw [List.filterMap_eq_nil_iff, List.forall_mem_map]
        exact fun e _ => Intake.unencodable?_strayIssue e
      rw [surrogates, issues, List.filterMap_append, hstrays, List.append_nil]
      rfl

end Checked

end ProofLedger
