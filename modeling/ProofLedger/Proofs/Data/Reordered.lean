import Mathlib.Data.List.Perm.Basic
import ProofLedger.Data.Basic

/-!
# Values up to the order of entries

`Reordered` relates the values that differ in nothing but the order of entries, in dictionaries at
any depth. It is an equivalence (`Reordered.symm`, `Reordered.trans`), and a class has at most one
value whose dictionaries are all in key order: `Reordered.eq_of_ascending`.

Values nest through lists of items and through lists of entries. `induction_parts` takes both as
one: what holds of a value when it holds of its parts holds of every value.
-/

namespace ProofLedger

/-- One key comes before another. Only texts have an order here. -/
inductive Key.Precedes : Key → Key → Prop
  | text {s t : Text} (before : s < t) : Precedes (.text s) (.text t)

theorem Key.Precedes.asymm {a b : Key} (h : Precedes a b) : ¬ Precedes b a := by
  obtain ⟨hst⟩ := h
  rintro ⟨hts⟩
  exact List.lt_asymm hst hts

namespace Data

/-! ## The parts of a value -/

/-- The items of a list or a tuple, the values in a dictionary. -/
def parts : Data → List Data
  | .list xs | .tuple xs => xs
  | .dict es => es.map Prod.snd
  | _ => []

theorem sizeOf_lt_of_mem_parts {d p : Data} (h : p ∈ d.parts) : sizeOf p < sizeOf d := by
  cases d with
  | list xs | tuple xs =>
    have hitem : sizeOf p < sizeOf xs := List.sizeOf_lt_of_mem h
    simp only [list.sizeOf_spec, tuple.sizeOf_spec]
    omega
  | dict es =>
    obtain ⟨⟨k, v⟩, he, rfl⟩ := List.mem_map.mp h
    have hentry := List.sizeOf_lt_of_mem he
    simp only [dict.sizeOf_spec, Prod.mk.sizeOf_spec] at hentry ⊢
    omega
  | _ => cases h

/-- What passes from the parts to the whole holds of every value. -/
theorem induction_parts {motive : Data → Prop}
    (step : ∀ d : Data, (∀ p ∈ d.parts, motive p) → motive d) (d : Data) : motive d :=
  step d fun p hp =>
    have := sizeOf_lt_of_mem_parts hp
    induction_parts step p
termination_by sizeOf d

/-- The property holds of a value and of all that is in it. -/
inductive Everywhere (P : Data → Prop) : Data → Prop
  | intro {d : Data} (here : P d) (parts : ∀ p ∈ d.parts, Everywhere P p) : Everywhere P d

section Everywhere

variable {P : Data → Prop} {d p : Data}

theorem Everywhere.here (h : d.Everywhere P) : P d := by
  cases h
  assumption

theorem Everywhere.part (h : d.Everywhere P) (hp : p ∈ d.parts) : p.Everywhere P := by
  obtain ⟨-, hparts⟩ := h
  exact hparts p hp

end Everywhere

/-- No key is in a dictionary twice. -/
def DistinctKeys : Data → Prop
  | .dict es => (es.map Prod.fst).Nodup
  | _ => True

/-- The keys of a dictionary are texts that ascend. -/
def AscendingKeys : Data → Prop
  | .dict es => es.Pairwise fun a b => a.1.Precedes b.1
  | _ => True

/-! ## Entries in another order -/

/-- The entries have one key, and the relation holds between their values. -/
inductive Under (R : Data → Data → Prop) : Key × Data → Key × Data → Prop
  | key (k : Key) {v w : Data} (value : R v w) : Under R (k, v) (k, w)

/-- The values differ in nothing but the order of entries. -/
inductive Reordered : Data → Data → Prop
  | same (d : Data) : Reordered d d
  | list {xs ys : List Data} (items : List.Forall₂ Reordered xs ys) :
      Reordered (.list xs) (.list ys)
  | tuple {xs ys : List Data} (items : List.Forall₂ Reordered xs ys) :
      Reordered (.tuple xs) (.tuple ys)
  | dict {es fs gs : List (Key × Data)} (entries : List.Forall₂ (Under Reordered) es fs)
      (order : fs.Perm gs) : Reordered (.dict es) (.dict gs)

section Pairs

variable {α β : Type} {R : α → α → Prop} {xs ys zs : List α}

/-- What is paired with something is paired with a member. -/
theorem exists_of_forall₂ {Q : α → β → Prop} {bs : List β} (h : List.Forall₂ Q xs bs) {b : β}
    (hb : b ∈ bs) : ∃ x ∈ xs, Q x b := by
  induction h with
  | nil => cases hb
  | @cons x b' xs bs hpair _ ih =>
    rcases List.mem_cons.mp hb with rfl | hb
    · exact ⟨x, List.mem_cons_self, hpair⟩
    · obtain ⟨y, hy, hpair⟩ := ih hb
      exact ⟨y, List.mem_cons_of_mem _ hy, hpair⟩

theorem forall₂_imp_mem {Q Q' : α → β → Prop} {bs : List β} (h : List.Forall₂ Q xs bs)
    (hQ : ∀ x ∈ xs, ∀ b, Q x b → Q' x b) : List.Forall₂ Q' xs bs :=
  ((List.forall₂_and_left xs bs).mpr ⟨hQ, h⟩).imp fun _ b ⟨himp, hpair⟩ => himp b hpair

theorem forall₂_symm (h : List.Forall₂ R xs ys) (hR : ∀ x ∈ xs, ∀ y, R x y → R y x) :
    List.Forall₂ R ys xs :=
  .flip (forall₂_imp_mem h hR)

theorem forall₂_trans (h : List.Forall₂ R xs ys) (h' : List.Forall₂ R ys zs)
    (hR : ∀ x ∈ xs, ∀ y z, R x y → R y z → R x z) : List.Forall₂ R xs zs := by
  induction h generalizing zs with
  | nil => exact h'
  | cons hxy _ ih =>
    cases h' with
    | cons hyz hrest =>
      exact .cons (hR _ List.mem_cons_self _ _ hxy hyz)
        (ih hrest fun x hx => hR x (List.mem_cons_of_mem _ hx))

theorem forall₂_eq (h : List.Forall₂ R xs ys) (hR : ∀ x ∈ xs, ∀ y ∈ ys, R x y → x = y) :
    xs = ys := by
  induction h with
  | nil => rfl
  | cons hxy _ ih =>
    rw [hR _ List.mem_cons_self _ List.mem_cons_self hxy,
      ih fun x hx y hy => hR x (List.mem_cons_of_mem _ hx) y (List.mem_cons_of_mem _ hy)]

end Pairs

theorem Reordered.symm {d e : Data} (h : Reordered d e) : Reordered e d := by
  induction d using induction_parts generalizing e with
  | step d ih =>
    cases h with
    | same => exact .same d
    | list hitems => exact .list (forall₂_symm hitems fun x hx _ hxy => ih x hx hxy)
    | tuple hitems => exact .tuple (forall₂_symm hitems fun x hx _ hxy => ih x hx hxy)
    | dict hentries horder =>
      have hback := forall₂_symm hentries fun x hx y hxy => by
        obtain ⟨k, hvalue⟩ := hxy
        exact .key k (ih _ (List.mem_map_of_mem hx) hvalue)
      obtain ⟨fs, hfs, horder⟩ := List.perm_comp_forall₂ horder.symm hback
      exact .dict hfs horder

theorem Reordered.trans {d e f : Data} (h : Reordered d e) (h' : Reordered e f) :
    Reordered d f := by
  induction d using induction_parts generalizing e f with
  | step d ih =>
    cases h with
    | same => exact h'
    | list hitems =>
      cases h' with
      | same => exact .list hitems
      | list hitems' =>
        exact .list (forall₂_trans hitems hitems' fun x hx _ _ hxy hyz => ih x hx hxy hyz)
    | tuple hitems =>
      cases h' with
      | same => exact .tuple hitems
      | tuple hitems' =>
        exact .tuple (forall₂_trans hitems hitems' fun x hx _ _ hxy hyz => ih x hx hxy hyz)
    | dict hentries horder =>
      cases h' with
      | same => exact .dict hentries horder
      | dict hentries' horder' =>
        obtain ⟨fs, hfs, hperm⟩ := List.perm_comp_forall₂ horder hentries'
        refine .dict (forall₂_trans hentries hfs fun x hx y z hxy hyz => ?_) (hperm.trans horder')
        obtain ⟨k, hvalue⟩ := hxy
        obtain ⟨_, hvalue'⟩ := hyz
        exact .key k (ih _ (List.mem_map_of_mem hx) hvalue hvalue')

/-- Values with all dictionaries in key order are the same when they differ in the order of entries
alone. -/
theorem Reordered.eq_of_ascending {d e : Data} (h : Reordered d e)
    (hd : d.Everywhere AscendingKeys) (he : e.Everywhere AscendingKeys) : d = e := by
  induction d using induction_parts generalizing e with
  | step d ih =>
    cases h with
    | same => rfl
    | list hitems =>
      rw [forall₂_eq hitems fun x hx y hy hxy => ih x hx hxy (hd.part hx) (he.part hy)]
    | tuple hitems =>
      rw [forall₂_eq hitems fun x hx y hy hxy => ih x hx hxy (hd.part hx) (he.part hy)]
    | @dict es fs gs hentries horder =>
      have hsame : es = fs := by
        refine forall₂_eq hentries ?_
        rintro x hx y hy ⟨k, hvalue⟩
        have hleft := List.mem_map_of_mem (f := Prod.snd) hx
        have hright := List.mem_map_of_mem (f := Prod.snd) (horder.mem_iff.mp hy)
        exact congrArg (Prod.mk k) (ih _ hleft hvalue (hd.part hleft) (he.part hright))
      subst hsame
      -- Of the orders that the entries can be in, one ascends.
      have hantisymm : ∀ a ∈ es, ∀ b ∈ gs, a.1.Precedes b.1 → b.1.Precedes a.1 → a = b :=
        fun _ _ _ _ hab hba => absurd hba hab.asymm
      have heq : es = gs :=
        horder.eq_of_pairwise (fun a b ha hb => hantisymm a ha b hb) hd.here he.here
      rw [heq]

end Data

end ProofLedger
