import ProofLedger.Proofs.Outcome
import ProofLedger.Record.Document

/-!
# Fields that pass

What a model was made to hold passes the checks of its fields: `Words.check_ints`,
`build_toDocument` and `build_toFields` say it of words, inputs and objects, and
`Timestamp.check_text` of the text of a moment. The lemmas at the start say when a field passes,
and that a model passes when its fields do and no other entry is there; those after them say of
a model that has passed what its fields have passed.
-/

namespace ProofLedger

namespace Intake

theorem required_of_valueAt? {α : Type} {fields : Fields} {name : Text} {d : Data}
    {check : Data → Checked α} {a : α} (hd : valueAt? fields name = some d)
    (ha : check d = .ok a) : required fields name check = .ok a := by
  rw [required, hd]
  simp only [ha]
  rfl

theorem optional_of_valueAt? {α : Type} {fields : Fields} {name : Text} {default : α} {d : Data}
    {check : Data → Checked α} {a : α} (hd : valueAt? fields name = some d)
    (ha : check d = .ok a) : optional fields name default check = .ok a := by
  rw [optional, hd]
  simp only [ha]
  rfl

theorem closed_of_declared {α : Type} {fields : Fields} {names : List Text}
    (h : ∀ e ∈ fields, isDeclared names e.1 = true) (checked : Checked α) :
    closed fields names checked = checked := by
  have hnone : strays fields names = [] := by
    rw [strays, List.filter_eq_nil_iff]
    intro e he
    rw [h e he]
    exact Bool.false_ne_true
  rw [closed, hnone]
  rfl

/-- Items pass when each of them does. -/
theorem itemsFrom_map {α β : Type} {check : Data → Checked α} {f : β → Data} {g : β → α}
    {xs : List β} (h : ∀ x ∈ xs, check (f x) = .ok (g x)) (index : Nat) :
    Checked.itemsFrom check index (xs.map f) = .ok (xs.map g) := by
  induction xs generalizing index with
  | nil => rfl
  | cons x xs ih =>
    have hx := h x List.mem_cons_self
    have hxs := ih (fun y hy => h y (List.mem_cons_of_mem _ hy)) (index + 1)
    rw [List.map_cons, Checked.itemsFrom, hx, hxs]
    rfl

theorem sequence_ints (cause : Cause) (xs : List Int) :
    sequence cause int (.list (xs.map .int)) = .ok xs := by
  have hitem : ∀ n ∈ xs, int (.int n) = .ok (id n) := fun _ _ => rfl
  have h : sequence cause int (.list (xs.map .int)) = .ok (xs.map id) := itemsFrom_map hitem 0
  rwa [List.map_id] at h

theorem name_text (n : Name) : name (.text n.val) = .ok n := by
  obtain ⟨t, hscalar, hne⟩ := n
  simp only [name, text, bind, Except.bind, dif_pos hscalar, dif_pos hne]

theorem nonNegative_double (d : Duration) : nonNegative (.double d.val) = .ok d := by
  obtain ⟨x, hx⟩ := d
  simp only [nonNegative, double, bind, Except.bind, dif_pos hx]

/-! ## What has passed -/

theorem both_eq_ok {α β : Type} {a : Checked α} {b : Checked β} {p : α × β}
    (h : a.both b = .ok p) : a = .ok p.1 ∧ b = .ok p.2 := by
  cases a with
  | error e => cases h
  | ok x =>
    cases b with
    | error e => cases h
    | ok y =>
      cases h
      exact ⟨rfl, rfl⟩

/-- Where nothing is too much, the declared fields decide. -/
theorem closed_eq_ok {α : Type} {fields : Fields} {names : List Text} {checked : Checked α} {a : α}
    (h : closed fields names checked = .ok a) : checked = .ok a := by
  rw [closed] at h
  split at h
  · split at h
    · exact h
    · cases h
  · split at h
    · exact h
    · cases h

/-- A field that is there and passes has passed its check. -/
theorem required_eq_ok {α : Type} {fields : Fields} {name : Text} {d : Data}
    {check : Data → Checked α} {a : α} (hd : valueAt? fields name = some d)
    (h : required fields name check = .ok a) : check d = .ok a := by
  rw [required, hd] at h
  exact mapError_eq_ok h

theorem name_eq_ok {t : Text} {n : Name} (h : name (.text t) = .ok n) : n.val = t := by
  simp only [name, text, bind, Except.bind] at h
  split at h
  · split at h
    · cases h
      rfl
    · cases h
  · cases h

/-- A field that has passed was there. -/
theorem exists_of_required {α : Type} {fields : Fields} {name : Text} {check : Data → Checked α}
    {a : α} (h : required fields name check = .ok a) :
    ∃ d, valueAt? fields name = some d ∧ check d = .ok a := by
  cases hd : valueAt? fields name with
  | none =>
    rw [required, hd] at h
    cases h
  | some d => exact ⟨d, rfl, required_eq_ok hd h⟩

theorem model_eq_ok {α : Type} {name : Text} {build : Fields → Checked α} {d : Data} {a : α}
    (h : model name build d = .ok a) : ∃ es, d = .dict es ∧ build es = .ok a := by
  unfold model at h
  split at h
  · next es => exact ⟨es, rfl, h⟩
  · cases h

end Intake

namespace Words

/-- The words as integers. -/
def ints (ws : Words) : List Int := ws.values.map Int.ofNat

theorem toData_eq (ws : Words) : ws.toData = .list (ws.ints.map .int) := by
  rw [toData, ints, List.map_map]
  rfl

theorem ofInts?_ints (ws : Words) : ofInts? ws.ints = some ws := by
  have hvalues : ws.ints.map Int.toNat = ws.values := by
    rw [ints, List.map_map]
    exact List.map_id _
  have hinside : firstOutside? ws.ints = none := by
    rw [firstOutside?, List.find?_eq_none]
    intro w hw
    obtain ⟨n, hn, rfl⟩ := List.mem_map.mp hw
    have hlt := ws.bounded n hn
    simp only [Int.ofNat_eq_natCast, Bool.or_eq_true, decide_eq_true_eq, not_or]
    omega
  have hbounds : (ws.ints.map Int.toNat).length = 5 ∧ ∀ w ∈ ws.ints.map Int.toNat, w < 2 ^ 64 := by
    rw [hvalues]
    exact ⟨ws.length_eq, ws.bounded⟩
  rw [ofInts?]
  simp only [dif_pos hbounds, hinside, if_true]
  obtain ⟨values, hlength, hbounded⟩ := ws
  exact congrArg some (by simpa [Words.mk.injEq] using hvalues)

theorem check_ints (field : Text) (ws : Words) :
    check field (.list (ws.ints.map .int)) = .ok ws := by
  simp only [check, Intake.sequence_ints, bind, Except.bind, ofInts?_ints]

end Words

namespace ProveInput

/-- The input as a document holds it. -/
def toDocument (i : ProveInput) : InputDocument :=
  ⟨i.length, i.blockCommitment.ints, i.nonce.ints⟩

theorem build_toDocument (i : ProveInput) : build i.toDocument.toFields = .ok i := by
  have hlength : Intake.required i.toDocument.toFields "length" Intake.nat = .ok i.length :=
    Intake.required_of_valueAt? (d := .int i.length) rfl rfl
  have hcommitment : Intake.required i.toDocument.toFields "block_commitment"
      (Words.check "block_commitment") = .ok i.blockCommitment :=
    Intake.required_of_valueAt? rfl (Words.check_ints _ _)
  have hnonce : Intake.required i.toDocument.toFields "nonce" (Words.check "nonce") =
      .ok i.nonce :=
    Intake.required_of_valueAt? rfl (Words.check_ints _ _)
  have hdeclared : ∀ e ∈ i.toDocument.toFields, Intake.isDeclared fieldNames e.1 = true := by
    intro e he
    simp only [InputDocument.toFields, List.mem_cons, List.not_mem_nil, or_false] at he
    rcases he with rfl | rfl | rfl <;> rfl
  rw [build, ofFields, hlength, hcommitment, hnonce, Intake.closed_of_declared hdeclared]
  rfl

end ProveInput

namespace ProofObject

theorem checkData_text (o : ProofObject) : checkData (.text o.data.val) = .ok o.data := by
  obtain ⟨tag, t, ht⟩ := o
  simp only [checkData, Intake.text, bind, Except.bind, dif_pos ht]

theorem build_toFields (o : ProofObject) : build o.toFields = .ok o := by
  have htag : Intake.required o.toFields "type" Intake.name = .ok o.tag :=
    Intake.required_of_valueAt? rfl (Intake.name_text o.tag)
  have hdata : Intake.required o.toFields "data" checkData = .ok o.data :=
    Intake.required_of_valueAt? rfl (checkData_text o)
  have hdeclared : ∀ e ∈ o.toFields, Intake.isDeclared fieldNames e.1 = true := by
    intro e he
    simp only [toFields, List.mem_cons, List.not_mem_nil, or_false] at he
    rcases he with rfl | rfl <;> rfl
  rw [build, ofFields, htag, hdata, Intake.closed_of_declared hdeclared]
  rfl

/-- The object as a document holds it. -/
def toDocument (o : ProofObject) : ObjectDocument := ⟨o.tag.val, o.data.val⟩

theorem toObject_toDocument (o : ProofObject) : o.toDocument.toObject = .ok o := build_toFields o

end ProofObject

namespace Timestamp

theorem check_text (ts : Timestamp) : check (.text ts.text) = .ok ts := by
  obtain ⟨t, m, hparsed, haware⟩ := ts
  simp only [check, Intake.text, bind, Except.bind]
  split
  · next hnone =>
    rw [hparsed] at hnone
    cases hnone
  · next m' hm' =>
    rw [hparsed] at hm'
    cases hm'
    rw [dif_pos haware]

end Timestamp

end ProofLedger
