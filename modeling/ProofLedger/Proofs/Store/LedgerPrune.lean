import ProofLedger.Proofs.Store.LedgerPut

/-!
# Pruning a ledger

`Represents.pruneBefore`: the records that are old enough drop out of the ledger, the others
keep their order, and the pointer goes with the record it names; it stays when the baseline is
kept. A cutoff that cannot be compared with records ends the mutation before its first step.
-/

namespace ProofLedger.Directory

open Identity

/-! ## Removing record files -/

/-- Distinct names are removed one after another. -/
theorem removals_eq (site : Site) {gone ids : List Text} (hnodup : ids.Nodup)
    (hfresh : ∀ id ∈ ids, id ∉ gone) :
    (removals site gone ids).outcome = .ok () ∧
      (removals site gone ids).steps = ids.map .removeRecord := by
  induction ids generalizing gone with
  | nil => exact ⟨rfl, rfl⟩
  | cons id ids ih =>
    rw [List.nodup_cons] at hnodup
    have hid : gone.contains id = false := by
      rw [← Bool.not_eq_true, List.contains_iff_mem]
      exact hfresh id List.mem_cons_self
    have hrest : ∀ x ∈ ids, x ∉ id :: gone := by
      intro x hx hmem
      rcases List.mem_cons.mp hmem with rfl | hmem
      · exact hnodup.1 hx
      · exact hfresh x (List.mem_cons_of_mem _ hx) hmem
    obtain ⟨hok, hsteps⟩ := ih hnodup.2 hrest
    rw [removals, hid]
    exact ⟨hok, congrArg _ hsteps⟩

theorem applyAll_removals (ids : List Text) (d : Directory) :
    Step.applyAll (ids.map .removeRecord) d =
      { d with records := d.records.filter fun e => !ids.contains e.1 } := by
  induction ids generalizing d with
  | nil => simp [Step.applyAll]
  | cons id ids ih =>
    have hstep : Step.applyAll ((id :: ids).map .removeRecord) d =
        Step.applyAll (ids.map .removeRecord) ((Step.removeRecord id).apply d) := rfl
    rw [hstep, ih]
    simp only [Step.apply, List.filter_filter, List.contains_cons, Bool.not_or]
    congr 2
    funext e
    rw [Bool.and_comm]
    rfl

/-! ## Which records go -/

/-- Whether a record was made before the cutoff and is not kept as the baseline. -/
def isDoomed (cutoff : Moment) (kept : Option Text) (r : ProofRecord) : Bool :=
  decide (r.createdAt.instant < cutoff.instant) && kept != some r.id.val

variable {d d' : Directory} {l : List ProofRecord}

theorem Represents.goes (h : Represents d l) {cutoff : Moment} (haware : cutoff.isAware = true)
    (kept : Option Text) {r : ProofRecord} (hr : r ∈ l) :
    d.goes cutoff kept r.id.val = .ok (isDoomed cutoff kept r) := by
  rw [Directory.goes, h.get_of_mem hr]
  simp only [bind, Except.bind, isOld, haware, if_true]
  rfl

/-- Every record is looked at, in the order of the ledger. -/
theorem Represents.doomed (h : Represents d l) {cutoff : Moment} (haware : cutoff.isAware = true)
    (kept : Option Text) :
    d.doomed cutoff kept (names l) = .ok (l.map (isDoomed cutoff kept)) := by
  have hsome : ∀ s : List ProofRecord, (∀ r ∈ s, r ∈ l) →
      (names s).mapM (d.goes cutoff kept) = .ok (s.map (isDoomed cutoff kept)) := by
    intro s hs
    induction s with
    | nil => rfl
    | cons r s ih =>
      have hrest : (names s).mapM (d.goes cutoff kept) = .ok (s.map (isDoomed cutoff kept)) :=
        ih fun x hx => hs x (List.mem_cons_of_mem _ hx)
      rw [names, List.map_cons, List.mapM_cons, h.goes haware kept (hs r List.mem_cons_self)]
      simp only [bind, Except.bind]
      rw [← names, hrest]
      rfl
  exact hsome l fun _ hr => hr

/-- A cutoff without a distance from UTC is compared with no record. -/
theorem Represents.doomed_unaware (h : Represents d l) {cutoff : Moment}
    (haware : cutoff.isAware = false) (kept : Option Text) (hne : l ≠ []) :
    ∃ f, d.doomed cutoff kept (names l) = .error f := by
  cases l with
  | nil => exact absurd rfl hne
  | cons r l =>
    refine ⟨.fault .unawareCutoff, ?_⟩
    rw [Directory.doomed, names, List.map_cons, List.mapM_cons, Directory.goes,
      h.get_of_mem List.mem_cons_self]
    simp only [bind, Except.bind, isOld, haware]
    rfl

theorem marked_filter (l : List ProofRecord) (g : ProofRecord → Bool) (p : Bool → Bool) :
    (((names l).zip (l.map g)).filter (p ·.2)).map (·.1) = names (l.filter (p ∘ g)) := by
  have hzip : (names l).zip (l.map g) = l.map fun r => (r.id.val, g r) := by
    rw [names, List.zip_map']
  rw [hzip, List.filter_map, List.map_map]
  rfl

/-! ## Forgetting -/

/-- Names have gone out of the history, and their files with them. -/
structure Forgets (current : Option Text) (kept deleted : List Text) (d d' : Directory) : Prop where
  records : d'.records = d.records.filter fun e => !deleted.contains e.1
  index : d'.index = some (octets (indexText kept))
  pointer : d'.pointer = if current.any deleted.contains then none else d.pointer
  site : d'.site = d.site

/-- The index is written anew and the pointer goes if its record does; `before` are the files that
are removed. -/
theorem final_forget {site : Site} {deleted before : List Text}
    (hsteps : (removals site [] deleted).steps = before.map .removeRecord) (current : Option Text)
    (kept : List Text) (d : Directory) :
    (forget site current kept deleted).final d =
      { records := d.records.filter fun e => !before.contains e.1
        index := some (octets (indexText kept))
        pointer := if current.any deleted.contains then none else d.pointer
        temp := none
        site := d.site } := by
  have hindex : Step.applyAll [.writeTemp (octets (kept.flatMap (· ++ [10]))), .moveToIndex] d =
      { d with index := some (octets (indexText kept)), temp := none } := rfl
  rw [Plan.final, forget]
  simp only [hsteps, Step.applyAll_append, hindex, applyAll_removals]
  cases current with
  | none => rfl
  | some id =>
    cases hid : deleted.contains id <;> simp only [Option.filter, Option.any, hid] <;> rfl

theorem forget_eq (site : Site) (current : Option Text) (kept : List Text) {deleted : List Text}
    (hnodup : deleted.Nodup) (d : Directory) :
    (forget site current kept deleted).outcome = .ok deleted ∧
      Forgets current kept deleted d ((forget site current kept deleted).final d) := by
  have hfresh : ∀ id ∈ deleted, id ∉ ([] : List Text) := fun _ _ h => nomatch h
  obtain ⟨hok, hsteps⟩ := removals_eq site hnodup hfresh
  refine ⟨?_, ?_⟩
  · rw [forget]
    simp only [hok]
    rfl
  · rw [final_forget hsteps]
    exact ⟨rfl, rfl, rfl, rfl⟩

/-- The ledger without the names that were deleted. -/
def without (l : List ProofRecord) (deleted : List Text) : List ProofRecord :=
  l.filter fun r => !deleted.contains r.id.val

theorem Represents.forgets (h : Represents d l) {current : Option Text} {deleted : List Text}
    (hcurrent : ∀ r ∈ l, d.pointer = some (octets (pointerText r.id.val)) →
      current = some r.id.val)
    (hd : Forgets current (names (without l deleted)) deleted d d') :
    Represents d' (without l deleted) where
  clear := by rw [hd.site, h.clear]
  records := by
    rw [hd.records, h.records, List.filter_map]
    rfl
  index := by rw [hd.index, Option.getD_some, octets_indexText]
  pointer := by
    rw [hd.pointer]
    split
    · exact .inl rfl
    · next hkept =>
      refine h.pointer.imp id ?_
      rintro ⟨r, hr, hpointer⟩
      refine ⟨r, List.mem_filter.mpr ⟨hr, ?_⟩, hpointer⟩
      rw [hcurrent r hr hpointer] at hkept
      simpa using hkept
  nodup := h.nodup.sublist (List.Sublist.map _ List.filter_sublist)
  named := fun r hr => h.named r (List.mem_of_mem_filter hr)
  written := fun r hr => h.written r (List.mem_of_mem_filter hr)

theorem without_names_filter (h : Represents d l) (g : ProofRecord → Bool) :
    without l (names (l.filter g)) = l.filter fun r => !g r := by
  refine List.filter_congr fun r hr => ?_
  congr 1
  rw [Bool.eq_iff_iff, List.contains_iff_mem]
  constructor
  · intro hmem
    obtain ⟨r', hr', hid⟩ := List.mem_map.mp hmem
    obtain ⟨hr', hg⟩ := List.mem_filter.mp hr'
    rwa [h.eq_of_name hr' hr hid] at hg
  · exact fun hg => List.mem_map.mpr ⟨r, List.mem_filter.mpr ⟨hr, hg⟩, rfl⟩

/-- The name that the pointer of a ledger holds, if there is a pointer. -/
theorem Represents.current (h : Represents d l) :
    ∃ current : Data, d.pointed = .ok current ∧
      (∀ r ∈ l, d.pointer = some (octets (pointerText r.id.val)) →
        name? current = some r.id.val) := by
  rcases h.pointed_cases with ⟨hnone, hpointed⟩ | ⟨r, hr, hpointer, hpointed⟩
  · refine ⟨_, hpointed, fun r _ hpointer => ?_⟩
    rw [hnone] at hpointer
    cases hpointer
  · refine ⟨_, hpointed, fun r' hr' hpointer' => ?_⟩
    have hsome := pointed_eq (h.check pointerName) (h.named r' hr').exact hpointer'
    rw [hpointed] at hsome
    exact congrArg some (Data.text.inj (Except.ok.inj hsome))

/-- The names that go from a ledger. -/
def going (l : List ProofRecord) (cutoff : Moment) (kept : Option Text) : List Text :=
  names (l.filter (isDoomed cutoff kept))

theorem Represents.nodup_going (h : Represents d l) (cutoff : Moment) (kept : Option Text) :
    (going l cutoff kept).Nodup := h.nodup.sublist (List.Sublist.map _ List.filter_sublist)

/-- The name that is kept as the baseline does not go, whatever its age. -/
theorem any_going_kept (l : List ProofRecord) (cutoff : Moment) (kept : Option Text) :
    kept.any (going l cutoff kept).contains = false := by
  cases kept with
  | none => rfl
  | some id =>
    rw [Option.any, ← Bool.not_eq_true, List.contains_iff_mem]
    intro hmem
    obtain ⟨r, hr, rfl⟩ := List.mem_map.mp hmem
    have hdoomed := (List.mem_filter.mp hr).2
    simp [isDoomed] at hdoomed

/-- The plan of a prune on a ledger, when the cutoff can be compared with records. -/
theorem Represents.pruneBefore_eq (h : Represents d l) {cutoff : Moment}
    (haware : cutoff.isAware = true) {keep : Bool} {current : Data} {kept : Option Text}
    (hpointed : d.pointed = .ok current) (hkept : (if keep then name? current else none) = kept) :
    d.pruneBefore cutoff keep =
      if (going l cutoff kept).isEmpty then .done []
      else forget d.site (name? current) (names (without l (going l cutoff kept)))
        (going l cutoff kept) := by
  have hgo : (((names l).zip (l.map (isDoomed cutoff kept))).filter (·.2)).map (·.1) =
      going l cutoff kept := marked_filter l _ id
  have hstay : (((names l).zip (l.map (isDoomed cutoff kept))).filter (!·.2)).map (·.1) =
      names (without l (going l cutoff kept)) := by
    rw [going, without_names_filter h]
    exact marked_filter l _ (!·)
  unfold Directory.pruneBefore
  rw [hpointed, Plan.after_ok, h.history, Plan.after_ok, hkept, h.doomed haware, Plan.after_ok]
  simp only [hgo, hstay]

/-- A cutoff that no record can be compared with changes nothing. -/
theorem Represents.pruneBefore_unaware (h : Represents d l) {cutoff : Moment}
    (haware : cutoff.isAware = false) (keep : Bool) :
    l = [] ∧ d.pruneBefore cutoff keep = .done [] ∨ ∃ f, d.pruneBefore cutoff keep = .refuse f := by
  obtain ⟨current, hpointed, -⟩ := h.current
  unfold Directory.pruneBefore
  rw [hpointed, Plan.after_ok, h.history, Plan.after_ok]
  cases l with
  | nil => exact .inl ⟨rfl, rfl⟩
  | cons r l =>
    obtain ⟨f, hf⟩ := h.doomed_unaware haware (if keep then name? current else none)
      (List.cons_ne_nil r l)
    rw [hf]
    exact .inr ⟨f, rfl⟩

theorem without_nil (l : List ProofRecord) : without l [] = l :=
  List.filter_eq_self.mpr fun _ _ => rfl

/-- What a prune of a ledger comes to: it ends before its first step, nothing goes, or names are
forgotten, the baseline not among them where it is kept. -/
inductive Prunes (d : Directory) (l : List ProofRecord) (keep : Bool) : Plan (List Text) → Prop
  | refuse (f : Failure) : Prunes d l keep (.refuse f)
  | nothing : Prunes d l keep (.done [])
  | forget {current : Data} {deleted : List Text} (pointed : d.pointed = .ok current)
      (nodup : deleted.Nodup) (kept : keep = true → (name? current).any deleted.contains = false) :
      Prunes d l keep (forget d.site (name? current) (names (without l deleted)) deleted)

theorem Represents.prunes (h : Represents d l) (cutoff : Moment) (keep : Bool) :
    Prunes d l keep (d.pruneBefore cutoff keep) := by
  cases haware : cutoff.isAware with
  | false =>
    rcases h.pruneBefore_unaware haware keep with ⟨-, hplan⟩ | ⟨f, hplan⟩
    · rw [hplan]
      exact .nothing
    · rw [hplan]
      exact .refuse f
  | true =>
    obtain ⟨current, hpointed, -⟩ := h.current
    generalize hkept : (if keep then name? current else none) = kept
    rw [h.pruneBefore_eq haware hpointed hkept]
    split
    · exact .nothing
    · refine .forget hpointed (h.nodup_going cutoff kept) fun hkeep => ?_
      rw [hkeep, if_pos rfl] at hkept
      rw [hkept, any_going_kept]

/-- What is left of a ledger when names are forgotten. -/
theorem Represents.forget (h : Represents d l) {current : Data} (hpointed : d.pointed = .ok current)
    {deleted : List Text} (hnodup : deleted.Nodup) :
    Represents ((forget d.site (name? current) (names (without l deleted)) deleted).final d)
      (without l deleted) := by
  obtain ⟨current', hpointed', hcurrent⟩ := h.current
  rw [hpointed] at hpointed'
  cases hpointed'
  exact h.forgets hcurrent (forget_eq d.site _ _ hnodup d).2

/-- The records that are old enough drop out, apart from the baseline where it is kept; then
the pointer stays. A cutoff that no record can be compared with changes nothing. -/
theorem Represents.pruneBefore (h : Represents d l) (cutoff : Moment) (keep : Bool) :
    (∃ deleted, (d.pruneBefore cutoff keep).outcome = .ok deleted ∧
        Represents ((d.pruneBefore cutoff keep).final d) (without l deleted) ∧
        (keep = true → ((d.pruneBefore cutoff keep).final d).pointer = d.pointer)) ∨
      (∃ f, (d.pruneBefore cutoff keep).outcome = .error f ∧
        Keeps d ((d.pruneBefore cutoff keep).final d)) := by
  have hprunes := h.prunes cutoff keep
  generalize d.pruneBefore cutoff keep = p at hprunes ⊢
  cases hprunes with
  | refuse f => exact .inr ⟨f, rfl, Keeps.refl d⟩
  | nothing => exact .inl ⟨[], rfl, (without_nil l).symm ▸ h, fun _ => rfl⟩
  | forget hpointed hnodup hkept =>
    obtain ⟨hok, hforgets⟩ := forget_eq d.site _ _ hnodup d
    refine .inl ⟨_, hok, h.forget hpointed hnodup, fun hkeep => ?_⟩
    rw [hforgets.pointer, hkept hkeep]
    rfl

end ProofLedger.Directory
