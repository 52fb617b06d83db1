import ProofLedger.Proofs.Data.Entries
import ProofLedger.Proofs.Outcome
import ProofLedger.Toml.Document

/-!
# No key comes twice

`distinct_read`: whatever text is read as a document, no table of it has a key twice, at any depth.
Every table grows by `setEntry` alone (`Distinct.setEntry`), the reader reaches into a document by
`changeAt` alone (`distinct_changeAt`), and the values that are put there have been read by the same
rules (`DistinctUpTo`, by induction on the fuel).
-/

namespace ProofLedger.Toml

/-- No table in the value has a key twice, at any depth. -/
inductive Distinct : Data → Prop
  | plain {d : Data} (h : isContainer d = false) : Distinct d
  | list {xs : List Data} (h : ∀ x ∈ xs, Distinct x) : Distinct (.list xs)
  | dict {es : Table} (hkeys : (es.map Prod.fst).Nodup) (h : ∀ e ∈ es, Distinct e.2) :
      Distinct (.dict es)

namespace Distinct

theorem empty : Distinct (.dict []) := .dict List.nodup_nil fun _ h => nomatch h

theorem items {xs : List Data} (h : Distinct (.list xs)) : ∀ x ∈ xs, Distinct x := by
  cases h with
  | plain h => cases h
  | list h => exact h

theorem keys {es : Table} (h : Distinct (.dict es)) : (es.map Prod.fst).Nodup := by
  cases h with
  | plain h => cases h
  | dict hkeys => exact hkeys

theorem entries {es : Table} (h : Distinct (.dict es)) : ∀ e ∈ es, Distinct e.2 := by
  cases h with
  | plain h => cases h
  | dict _ h => exact h

theorem valueAt? {es : Table} (h : Distinct (.dict es)) {name : Text} {d : Data}
    (hd : ProofLedger.valueAt? es name = some d) : Distinct d :=
  h.entries _ (mem_of_valueAt? hd)

theorem setEntry {es : Table} (h : Distinct (.dict es)) (name : Text) {d : Data}
    (hd : Distinct d) : Distinct (.dict (ProofLedger.setEntry es (.text name) d)) := by
  refine .dict (nodup_setEntry h.keys name d) fun e he => ?_
  rcases mem_setEntry he with he | rfl
  · exact h.entries e he
  · exact hd

end Distinct

/-! ## Places in a document -/

/-- A change that keeps keys distinct. -/
def KeepsDistinct (change : Table → Except Fault Table) : Prop :=
  ∀ {t t' : Table}, change t = .ok t' → Distinct (.dict t) → Distinct (.dict t')

theorem distinct_addEntry (name : Text) {d : Data} (hd : Distinct d) :
    KeepsDistinct (addEntry name d) := by
  intro t t' h ht
  rw [addEntry] at h
  split at h
  · cases h
    exact ht.setEntry name hd
  · cases h

theorem distinct_addTable (name : Text) : KeepsDistinct (addTable name) := by
  intro t t' h ht
  rw [addTable] at h
  split at h
  · cases h
    refine ht.setEntry name (.list fun x hx => ?_)
    rw [List.mem_singleton.mp hx]
    exact .empty
  · next xs hxs =>
    cases h
    refine ht.setEntry name (.list fun x hx => ?_)
    rcases List.mem_append.mp hx with hx | hx
    · exact (ht.valueAt? hxs).items x hx
    · rw [List.mem_singleton.mp hx]
      exact .empty
  · cases h

/-- A change at the end of a path keeps keys distinct in the whole document. -/
theorem distinct_changeAt (throughArrays : Bool) {change : Table → Except Fault Table}
    (hchange : KeepsDistinct change) (path : Path) :
    KeepsDistinct (changeAt throughArrays change path) := by
  induction path with
  | nil => exact hchange
  | cons k path ih =>
    intro t t' h ht
    rw [changeAt] at h
    split at h
    · obtain ⟨t₁, h₁, h⟩ := bind_eq_ok h
      cases h
      exact ht.setEntry k (ih h₁ .empty)
    · next es hes =>
      obtain ⟨t₁, h₁, h⟩ := bind_eq_ok h
      cases h
      exact ht.setEntry k (ih h₁ (ht.valueAt? hes))
    · next xs hxs =>
      have hitems := (ht.valueAt? hxs).items
      split at h
      · next es hlast =>
        split at h
        · obtain ⟨last, h₁, h⟩ := bind_eq_ok h
          cases h
          have hes : Distinct (.dict es) := hitems _ (List.mem_of_getLast? hlast)
          refine ht.setEntry k (.list fun x hx => ?_)
          rcases List.mem_append.mp hx with hx | hx
          · exact hitems x (List.dropLast_subset xs hx)
          · rw [List.mem_singleton.mp hx]
            exact ih h₁ hes
        · cases h
      · cases h
    · cases h

/-! ## Values -/

/-- A number is no container. -/
theorem plain_number {t r : Text} {d : Data} (h : number t = .ok (d, r)) :
    isContainer d = false := by
  have hdecimal : ∀ {negative : Bool} {digits rest : Text},
      decimal negative digits rest = .ok (d, r) → isContainer d = false := by
    intro negative digits rest h
    simp only [decimal] at h
    split at h
    · cases h
      rfl
    · split at h
      · split at h
        · cases h
        · cases h
          rfl
      · cases h
        rfl
  have hsigned : ∀ {t : Text}, signed t = .ok (d, r) → isContainer d = false := by
    intro t h
    simp only [signed] at h
    split at h
    · exact hdecimal h
    · unfold namedDouble at h
      split at h
      · cases h
        rfl
      · cases h
        rfl
      · cases h
  unfold number at h
  split at h
  · split at h
    · cases h
      rfl
    · exact hsigned h
  · exact hsigned h

/-- And no more is a date or a time. -/
theorem plain_moment? {t r : Text} {d : Data} (h : moment? t = some (.ok (d, r))) :
    isContainer d = false := by
  rw [moment?] at h
  split at h
  · simp only [Option.some.injEq] at h
    split at h
    · cases h
      rfl
    · cases h
  · obtain ⟨rest, -, h⟩ := Option.map_eq_some_iff.mp h
    cases h
    rfl

/-- What is read with so much fuel has distinct keys: values, items, pairs, and tables to which
pairs are added. -/
structure DistinctUpTo (fuel : Nat) : Prop where
  value : ∀ {t r d}, value fuel t = .ok (d, r) → Distinct d
  items : ∀ {t r xs}, items fuel t = .ok (xs, r) → ∀ x ∈ xs, Distinct x
  pair : ∀ {t r path d}, pair fuel t = .ok ((path, d), r) → Distinct d
  pairs : ∀ {t r closed table table'}, pairs fuel table closed t = .ok (table', r) →
    Distinct (.dict table) → Distinct (.dict table')

theorem distinctUpTo_zero : DistinctUpTo 0 where
  value h := by
    unfold Toml.value at h
    cases h
  items h := by
    unfold Toml.items at h
    split at h
    · cases h
      exact fun _ h => nomatch h
    · cases h
    · next hfuel _ => cases hfuel
  pair h := by
    unfold Toml.pair at h
    cases h
  pairs h := by
    unfold Toml.pairs at h
    cases h

section Step

variable {fuel : Nat} (ih : DistinctUpTo fuel)
include ih

theorem DistinctUpTo.value_succ {t r : Text} {d : Data}
    (h : Toml.value (fuel + 1) t = .ok (d, r)) : Distinct d := by
  unfold Toml.value at h
  split at h
  iterate 4
    · obtain ⟨_, -, h⟩ := map_eq_ok h
      cases h
      exact .plain rfl
  · cases h
    exact .plain rfl
  · cases h
    exact .plain rfl
  · obtain ⟨_, -, h⟩ := bind_eq_ok h
    obtain ⟨_, hitems, h⟩ := bind_eq_ok h
    cases h
    exact .list (ih.items hitems)
  · split at h
    · cases h
      exact .empty
    · obtain ⟨_, hpairs, h⟩ := map_eq_ok h
      cases h
      exact ih.pairs hpairs .empty
  · cases hmoment : moment? t with
    | none =>
      rw [hmoment] at h
      exact .plain (plain_number h)
    | some e =>
      rw [hmoment] at h
      exact .plain (plain_moment? (hmoment.trans (congrArg some h)))

theorem DistinctUpTo.items_succ {t r : Text} {xs : List Data}
    (h : Toml.items (fuel + 1) t = .ok (xs, r)) : ∀ x ∈ xs, Distinct x := by
  unfold Toml.items at h
  split at h
  · cases h
    exact fun _ h => nomatch h
  · cases h
  · next hfuel _ =>
    obtain rfl := Nat.succ.inj hfuel
    obtain ⟨⟨x, r₁⟩, hx, h⟩ := bind_eq_ok h
    obtain ⟨gap, -, h⟩ := bind_eq_ok h
    split at h
    · cases h
      exact List.forall_mem_singleton.mpr (ih.value hx)
    · obtain ⟨_, -, h⟩ := bind_eq_ok h
      obtain ⟨_, hxs, h⟩ := bind_eq_ok h
      cases h
      exact List.forall_mem_cons.mpr ⟨ih.value hx, ih.items hxs⟩
    · cases h

theorem DistinctUpTo.pair_succ {t r : Text} {path : Path} {d : Data}
    (h : Toml.pair (fuel + 1) t = .ok ((path, d), r)) : Distinct d := by
  unfold Toml.pair at h
  obtain ⟨k, -, h⟩ := bind_eq_ok h
  split at h
  · obtain ⟨_, hvalue, h⟩ := bind_eq_ok h
    cases h
    exact ih.value hvalue
  · cases h

theorem DistinctUpTo.pairs_succ {t r : Text} {closed : List Path} {table table' : Table}
    (h : Toml.pairs (fuel + 1) table closed t = .ok (table', r))
    (ht : Distinct (.dict table)) : Distinct (.dict table') := by
  unfold Toml.pairs at h
  obtain ⟨⟨⟨path, v⟩, r₁⟩, hpair, h⟩ := bind_eq_ok h
  dsimp only at h
  split at h
  · cases h
  · obtain ⟨table₁, hchange, h⟩ := bind_eq_ok h
    have ht₁ : Distinct (.dict table₁) :=
      distinct_changeAt false (distinct_addEntry _ (ih.pair hpair)) _ hchange ht
    split at h
    · cases h
      exact ht₁
    · exact ih.pairs h ht₁
    · cases h

end Step

theorem distinctUpTo (fuel : Nat) : DistinctUpTo fuel := by
  induction fuel with
  | zero => exact distinctUpTo_zero
  | succ fuel ih => exact ⟨ih.value_succ, ih.items_succ, ih.pair_succ, ih.pairs_succ⟩

/-! ## Statements -/

namespace Draft

variable {d d' : Draft}

/-- The document that has been read so far has no key twice. -/
def Distinct (d : Draft) : Prop := Toml.Distinct (.dict d.table)

theorem distinct_addPair {path : Path} {v : Data} (hv : Toml.Distinct v)
    (h : d.addPair path v = .ok d') (hd : d.Distinct) : d'.Distinct := by
  simp only [addPair] at h
  split at h
  · cases h
  · obtain ⟨table, hchange, h⟩ := bind_eq_ok h
    cases h
    exact distinct_changeAt true (distinct_addEntry _ hv) _ hchange hd

theorem distinct_openTable {path : Path} (h : d.openTable path = .ok d') (hd : d.Distinct) :
    d'.Distinct := by
  simp only [openTable] at h
  split at h
  · cases h
  · obtain ⟨table, hchange, h⟩ := bind_eq_ok h
    cases h
    refine distinct_changeAt true (fun hsame ht => ?_) _ hchange hd
    cases hsame
    exact ht

theorem distinct_openNext {path : Path} (h : d.openNext path = .ok d') (hd : d.Distinct) :
    d'.Distinct := by
  simp only [openNext] at h
  split at h
  · cases h
  · obtain ⟨table, hchange, h⟩ := bind_eq_ok h
    cases h
    exact distinct_changeAt true (distinct_addTable _) _ hchange hd

end Draft

/-- What one statement keeps. -/
theorem distinct_readStatement {d d' : Draft} {t r : Text}
    (h : readStatement d t = .ok (d', r)) (hd : d.Distinct) : d'.Distinct := by
  unfold readStatement at h
  split at h
  · unfold readHeader at h
    split at h
    · obtain ⟨k, -, h⟩ := bind_eq_ok h
      split at h
      · obtain ⟨_, hopen, h⟩ := bind_eq_ok h
        cases h
        exact Draft.distinct_openNext hopen hd
      · cases h
    · obtain ⟨k, -, h⟩ := bind_eq_ok h
      split at h
      · obtain ⟨_, hopen, h⟩ := bind_eq_ok h
        cases h
        exact Draft.distinct_openTable hopen hd
      · cases h
  · cases h
    exact hd
  · cases h
    exact hd
  · obtain ⟨⟨⟨path, v⟩, rest⟩, hpair, h⟩ := bind_eq_ok h
    obtain ⟨_, hadd, h⟩ := bind_eq_ok h
    cases h
    exact Draft.distinct_addPair ((distinctUpTo _).pair hpair) hadd hd

/-- What all the statements keep, one after another. -/
theorem distinct_readLines {fuel : Nat} {d : Draft} {t : Text} {table : Table}
    (h : readLines fuel d t = .ok table) (hd : d.Distinct) : Distinct (.dict table) := by
  induction fuel generalizing d t with
  | zero => cases h
  | succ fuel ih =>
    rw [readLines] at h
    split at h
    · cases h
      exact hd
    · exact ih h hd
    · obtain ⟨⟨d₁, rest⟩, hstatement, h⟩ := bind_eq_ok h
      have hd₁ := distinct_readStatement hstatement hd
      obtain ⟨_, -, h⟩ := bind_eq_ok h
      split at h
      · cases h
        exact hd₁
      · exact ih h hd₁
      · cases h

/-- No table of a document has a key twice, at any depth. -/
theorem distinct_read {t : Text} {table : Table} (h : read t = .ok table) :
    Distinct (.dict table) := distinct_readLines h Distinct.empty

end ProofLedger.Toml
