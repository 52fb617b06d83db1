import ProofLedger.Proofs.Store.Calls

/-!
# What readers meet between two steps

Readers take no lock, so they may come upon a directory while a call is at work. They never meet a
name without its record: `resolves_at_every_step` says so of every directory that a call leaves when
its steps are cut short, wherever that is.

Between two steps a directory need not represent a ledger, since the index may be behind the record
files. `Lists` is what it is all the same: the files of a ledger, and an index with some of its
names. Each step keeps that (`Lists.writeTemp` and so on, one lemma for each), and each has a
condition of its own: a name is listed or pointed to only when its file is there, and a file goes
only when its name is neither. That the plans meet these conditions is what their order is for.
-/

namespace ProofLedger

open Directory

/-! ## Steps that are cut short -/

namespace Step

variable {P : Directory → Prop} {d : Directory}

/-- The property holds before the first step and after each. -/
def Throughout (P : Directory → Prop) : List Step → Directory → Prop
  | [], d => P d
  | s :: steps, d => P d ∧ Throughout P steps (s.apply d)

theorem Throughout.start {steps : List Step} (h : Throughout P steps d) : P d := by
  cases steps with
  | nil => exact h
  | cons s steps => exact h.1

theorem throughout_append {a b : List Step} (ha : Throughout P a d)
    (hb : Throughout P b (applyAll a d)) : Throughout P (a ++ b) d := by
  induction a generalizing d with
  | nil => exact hb
  | cons s a ih => exact ⟨ha.1, ih ha.2 hb⟩

/-- Wherever the steps are cut short, the property holds. -/
theorem Throughout.cut {steps cut : List Step} (h : Throughout P steps d) (hcut : cut <+: steps) :
    P (applyAll cut d) := by
  induction cut generalizing steps d with
  | nil => exact h.start
  | cons s cut ih =>
    obtain ⟨rest, rfl⟩ := hcut
    exact ih h.2 (List.prefix_append cut rest)

end Step

namespace Plan

variable {α β : Type} {P : Directory → Prop} {d : Directory}

theorem throughout_after {x : Except Failure α} {next : α → Plan β} (hd : P d)
    (h : ∀ a, x = .ok a → Step.Throughout P (next a).steps d) :
    Step.Throughout P (after x next).steps d := by
  cases x with
  | error f => exact hd
  | ok a => exact h a rfl

theorem throughout_andThen {p : Plan α} {next : α → Plan β} (hp : Step.Throughout P p.steps d)
    (h : ∀ a, p.outcome = .ok a → Step.Throughout P (next a).steps (p.final d)) :
    Step.Throughout P (p.andThen next).steps d := by
  rw [andThen]
  cases hout : p.outcome with
  | error f => exact hp
  | ok a => exact Step.throughout_append hp (h a hout)

end Plan

namespace Directory

/-! ## Names that lead to records -/

/-- Every name in the index has a record file that loads to a record of that name, and so has the
name in the pointer, if there is a pointer. -/
structure Resolves (d : Directory) : Prop where
  index : ∃ ids, d.history = .ok ids ∧ ∀ id ∈ ids, ∃ r, d.get id = .ok r ∧ r.id.val = id
  pointer : d.pointer = none ∨
    ∃ id r, d.pointed = .ok (.text id) ∧ d.get id = .ok r ∧ r.id.val = id

/-- The files of a ledger, with an index that lists some of its names. -/
structure Lists (d : Directory) (l : List ProofRecord) (ids : List Text) : Prop where
  ledger : Represents { d with index := some (octets (indexText (names l))) } l
  index : d.index.getD [] = ids.flatMap indexLine
  known : ids ⊆ names l

variable {d : Directory} {l : List ProofRecord} {ids : List Text} {r : ProofRecord} {id : Text}

theorem Represents.lists (h : Represents d l) : Lists d l (names l) where
  ledger := { h with index := octets_indexText _ }
  index := h.index
  known := List.Subset.refl _

/-- An index that lists only what is there leads to records. -/
theorem Lists.resolves (h : Lists d l ids) : Resolves d where
  index := by
    have hcheck : d.site.check indexName = .ok () := h.ledger.check indexName
    have hexact : ∀ id ∈ ids, Identity.IsExact id := by
      intro id hid
      obtain ⟨r, hr, rfl⟩ := List.mem_map.mp (h.known hid)
      exact (h.ledger.named r hr).exact
    refine ⟨ids, history_eq hcheck hexact h.index, fun id hid => ?_⟩
    obtain ⟨r, hr, rfl⟩ := List.mem_map.mp (h.known hid)
    exact ⟨r, h.ledger.get_of_mem hr, rfl⟩
  pointer := by
    rcases h.ledger.pointed_cases with ⟨hnone, -⟩ | ⟨r, hr, -, hpointed⟩
    · exact .inl hnone
    · exact .inr ⟨r.id.val, r, hpointed, h.ledger.get_of_mem hr, rfl⟩

/-! ## One step -/

theorem Lists.writeTemp (h : Lists d l ids) (content : Bytes) :
    Lists ((Step.writeTemp content).apply d) l ids :=
  ⟨h.ledger.keeps ⟨rfl, rfl, rfl, rfl⟩, h.index, h.known⟩

theorem Lists.removeTemp (h : Lists d l ids) : Lists (Step.removeTemp.apply d) l ids :=
  ⟨h.ledger.keeps ⟨rfl, rfl, rfl, rfl⟩, h.index, h.known⟩

/-- A record file comes whole, under a name that is not listed yet. -/
theorem Lists.linkTemp (h : Lists d l ids) (hr : Named r) {content : Bytes}
    (hcontent : documentOctets r = .ok content) (htemp : d.temp = some content)
    (hfresh : r.id.val ∉ names l) :
    Lists ((Step.linkTemp r.id.val).apply d) (l ++ [r]) ids := by
  have hfree : d.isTaken r.id.val = false :=
    Bool.eq_false_iff.mpr fun htaken => hfresh ((h.ledger.isTaken_iff _).mp htaken)
  have happly : (Step.linkTemp r.id.val).apply d =
      { d with records := d.records ++ [(r.id.val, content)] } := by
    have hfile : d.hasFile r.id.val = false := (Bool.or_eq_false_iff.mp hfree).1
    simp only [Step.apply, htemp, hfile, Bool.false_eq_true, if_false]
  have hindex : octets (indexText (names (l ++ [r]))) =
      octets (indexText (names l)) ++ indexLine r.id.val := by
    rw [octets_indexText, octets_indexText, names, List.map_append, List.flatMap_append, ← names]
    simp
  rw [happly]
  refine ⟨h.ledger.stores hr.exact ⟨hr.exact.isStorable, content, hcontent, hfree, hr.short, rfl,
    ?_, rfl, rfl⟩, h.index, fun id hid => ?_⟩
  · exact congrArg some hindex
  · rw [names, List.map_append]
    exact List.mem_append_left _ (h.known hid)

theorem Lists.appendIndex (h : Lists d l ids) (hid : id ∈ names l) :
    Lists ((Step.appendIndex (indexLine id)).apply d) l (ids ++ [id]) where
  ledger := h.ledger.keeps ⟨rfl, rfl, rfl, rfl⟩
  index := by
    rw [List.flatMap_append, ← h.index]
    simp [Step.apply]
  known := List.append_subset.mpr ⟨h.known, by simpa using hid⟩

theorem Lists.moveToIndex (h : Lists d l ids) {ids' : List Text}
    (htemp : d.temp = some (octets (indexText ids'))) (hids' : ids' ⊆ names l) :
    Lists (Step.moveToIndex.apply d) l ids' := by
  rw [Step.apply, htemp]
  exact ⟨h.ledger.keeps ⟨rfl, rfl, rfl, rfl⟩, octets_indexText ids', hids'⟩

theorem Lists.moveToPointer (h : Lists d l ids) (hr : r ∈ l)
    (htemp : d.temp = some (octets (pointerText r.id.val))) :
    Lists (Step.moveToPointer.apply d) l ids := by
  rw [Step.apply, htemp]
  exact ⟨h.ledger.points hr ⟨rfl, rfl, rfl, rfl⟩, h.index, h.known⟩

theorem Lists.removePointer (h : Lists d l ids) : Lists (Step.removePointer.apply d) l ids :=
  ⟨{ h.ledger with pointer := .inl rfl }, h.index, h.known⟩

/-- A record file goes when its name is neither listed nor pointed to. -/
theorem Lists.removeRecord (h : Lists d l ids) (hlisted : id ∉ ids)
    (hpointed : d.pointed ≠ .ok (.text id)) :
    Lists ((Step.removeRecord id).apply d) (without l [id]) ids := by
  obtain ⟨current, hcurrent, hnamed⟩ := h.ledger.current
  have hother : (name? current).any ([id] : List Text).contains = false := by
    cases current with
    | text name =>
      have hne : name ≠ id := fun hsame => hpointed (hsame ▸ hcurrent)
      simpa [name?] using hne
    | _ => rfl
  refine ⟨h.ledger.forgets hnamed ⟨?_, rfl, ?_, rfl⟩, h.index, fun x hx => ?_⟩
  · refine List.filter_congr fun e _ => ?_
    rw [List.contains_cons, List.contains_nil, Bool.or_false, bne]
  · rw [hother]
    rfl
  · obtain ⟨r, hr, rfl⟩ := List.mem_map.mp (h.known hx)
    have hne : r.id.val ≠ id := fun hsame => hlisted (hsame ▸ hx)
    exact List.mem_map_of_mem (List.mem_filter.mpr ⟨hr, by simpa using hne⟩)

/-! ## The plans -/

/-- The directory is that of a ledger whose index may be behind. -/
def Orderly (d : Directory) : Prop := ∃ l ids, Lists d l ids

theorem Orderly.resolves (h : Orderly d) : Resolves d := by
  obtain ⟨l, ids, hlists⟩ := h
  exact hlists.resolves

theorem throughout_fail (h : Represents d l) (content : Bytes) (f : Failure) :
    Step.Throughout Orderly (fail content f).steps d :=
  ⟨⟨l, _, h.lists⟩, ⟨l, _, h.lists.writeTemp content⟩,
    ⟨l, _, (h.lists.writeTemp content).removeTemp⟩⟩

theorem throughout_create (h : Represents d l) (hr : Identity.IsExact r.id.val) {content : Bytes}
    (hcontent : documentOctets r = .ok content) :
    Step.Throughout Orderly (d.create r.id.val content).steps d := by
  unfold create
  split
  · next f _ => exact throughout_fail h content f
  · exact throughout_fail h content _
  · next hbroken => cases (Site.appendFault?_of_clear h.clear).symm.trans hbroken
  · next hlength hfree _ =>
    have hnamed : Named r := ⟨hr, checkLength_eq_ok_iff.mp hlength⟩
    have hwritten := h.lists.writeTemp content
    have hlinked := hwritten.linkTemp hnamed hcontent rfl (h.stocks.not_mem_names hfree)
    have hremoved := hlinked.removeTemp
    have hmem : r.id.val ∈ names (l ++ [r]) :=
      List.mem_map_of_mem (List.mem_append_right _ List.mem_cons_self)
    exact ⟨⟨_, _, h.lists⟩, ⟨_, _, hwritten⟩, ⟨_, _, hlinked⟩, ⟨_, _, hremoved⟩,
      ⟨_, _, hremoved.appendIndex hmem⟩⟩

theorem throughout_putHistory (h : Represents d l) (hr : Identity.IsExact r.id.val) :
    Step.Throughout Orderly (d.putHistory r).steps d := by
  have hstart : Orderly d := ⟨l, _, h.lists⟩
  refine Plan.throughout_after hstart fun _ _ => ?_
  refine Plan.throughout_after hstart fun content hcontent => ?_
  refine Plan.throughout_andThen (throughout_create h hr hcontent) fun _ hok => ?_
  have hadds := (create_ends d r.id.val content).of_ok hok
  exact ⟨_, _, (h.stores hr ⟨hr.isStorable, content, hcontent, hadds⟩).lists⟩

theorem throughout_ensure (h : Represents d l) (hr : Identity.IsExact r.id.val) :
    Step.Throughout Orderly (d.ensure r).steps d := by
  have hstart : Orderly d := ⟨l, _, h.lists⟩
  refine Plan.throughout_after hstart fun _ _ => Plan.throughout_after hstart fun _ _ => ?_
  split
  · exact Plan.throughout_after hstart fun _ _ => hstart
  · exact Plan.throughout_after hstart fun content hcontent => throughout_create h hr hcontent

/-- The pointer moves once the record file is there. -/
theorem throughout_putBaseline (h : Represents d l) (hr : Identity.IsExact r.id.val) :
    Step.Throughout Orderly (d.putBaseline r).steps d := by
  have hstart : Orderly d := ⟨l, _, h.lists⟩
  refine Plan.throughout_after hstart fun current _ => Plan.throughout_after hstart fun _ _ => ?_
  refine Plan.throughout_after hstart fun _ hname => ?_
  refine Plan.throughout_andThen (throughout_ensure h hr) fun _ hok => ?_
  have hfiles := (ensure_ends d (checkName_eq_ok_iff.mp hname)).of_ok hok
  obtain ⟨l', h', hr'⟩ := h.ensures hr hfiles
  have hwritten := h'.lists.writeTemp (octets (pointerText r.id.val))
  exact ⟨⟨_, _, h'.lists⟩, ⟨_, _, hwritten⟩, ⟨_, _, hwritten.moveToPointer hr' rfl⟩⟩

/-- Record files go one after another when no name of theirs is listed or pointed to. -/
theorem throughout_removals {deleted : List Text} (h : Lists d l ids)
    (hlisted : ∀ id ∈ deleted, id ∉ ids) (hpointed : ∀ id ∈ deleted, d.pointed ≠ .ok (.text id)) :
    Step.Throughout Orderly (deleted.map .removeRecord) d := by
  induction deleted generalizing d l with
  | nil => exact ⟨l, ids, h⟩
  | cons id deleted ih =>
    have hstep := h.removeRecord (hlisted id List.mem_cons_self) (hpointed id List.mem_cons_self)
    have hrest : ∀ x ∈ deleted, x ∉ ids := fun x hx => hlisted x (List.mem_cons_of_mem _ hx)
    refine ⟨⟨l, ids, h⟩, ih hstep hrest fun x hx => ?_⟩
    -- The pointer is as it was.
    exact hpointed x (List.mem_cons_of_mem _ hx)

/-- The index is written without the names and the pointer goes before any file does. -/
theorem throughout_forget (h : Represents d l) {current : Data} (hpointed : d.pointed = .ok current)
    {deleted : List Text} (hnodup : deleted.Nodup) :
    Step.Throughout Orderly
      (forget d.site (name? current) (names (without l deleted)) deleted).steps d := by
  have hsubset : names (without l deleted) ⊆ names l :=
    (List.Sublist.map _ List.filter_sublist).subset
  have hlisted : ∀ id ∈ deleted, id ∉ names (without l deleted) := by
    intro id hid hmem
    obtain ⟨r, hr, rfl⟩ := List.mem_map.mp hmem
    have hstays := (List.mem_filter.mp hr).2
    simp [hid] at hstays
  have hwritten := h.lists.writeTemp (octets (indexText (names (without l deleted))))
  have hindex := hwritten.moveToIndex rfl hsubset
  have hsteps : (forget d.site (name? current) (names (without l deleted)) deleted).steps =
      [.writeTemp (octets (indexText (names (without l deleted)))), .moveToIndex] ++
        ((((name? current).filter deleted.contains).map fun _ => Step.removePointer).toList ++
          deleted.map .removeRecord) := by
    rw [← (removals_eq d.site hnodup fun _ _ => List.not_mem_nil).2]
    rfl
  rw [hsteps]
  refine Step.throughout_append ⟨⟨_, _, h.lists⟩, ⟨_, _, hwritten⟩, ⟨_, _, hindex⟩⟩ ?_
  cases hunset : (name? current).filter deleted.contains with
  | none =>
    refine throughout_removals hindex hlisted fun id hid hsame => ?_
    have hcurrent : current = .text id := Except.ok.inj (hpointed.symm.trans hsame)
    simp [hcurrent, name?, Option.filter, hid] at hunset
  | some id =>
    have hclear := hindex.removePointer
    refine ⟨⟨_, _, hindex⟩, throughout_removals hclear hlisted fun id _ hsame => ?_⟩
    have hnone := pointed_none (hclear.ledger.check pointerName) rfl
    cases hnone.symm.trans hsame

end Directory

/-- Whatever a call tries on a store in order, the store stays orderly from step to step. -/
theorem Call.throughout_tries {d : Directory} {l : List ProofRecord} (h : Represents d l) {c : Call}
    (hc : c.Exact) {p : Plan (List Text)} (hp : c.Tries d p) :
    Step.Throughout Orderly p.steps d := by
  have hstart : Orderly d := ⟨l, _, h.lists⟩
  cases hp with
  | refuse c f => exact hstart
  | put r slot =>
    cases slot with
    | history => exact throughout_putHistory h hc
    | baseline => exact throughout_putBaseline h hc
  | promote hfound => exact throughout_putBaseline h (h.named _ (h.mem_of_get hfound).1).exact
  | prune now age keep cutoff =>
    have hprunes := h.prunes cutoff keep
    generalize d.pruneBefore cutoff keep = p at hprunes ⊢
    cases hprunes with
    | refuse f => exact hstart
    | nothing => exact hstart
    | forget hpointed hnodup _ => exact throughout_forget h hpointed hnodup

/-- After any calls to a store that was empty, take one more: the steps that its journal shows lead
to the directory that it leaves, and wherever they are cut short every name in the index and in the
pointer leads to its record. -/
theorem resolves_at_every_step (t : Instruments) {root : Text} {w : World}
    (hempty : w.store = .empty (.clear root)) (hfault : w.storeFault = none) (calls : List Call)
    (hcalls : ∀ c ∈ calls, c.Exact) {c : Call} (hc : c.Exact) :
    let s := (runCalls t calls ([], w)).2
    ∃ steps, (c.perform t s).2.journal = s.journal ++ steps ∧
      (c.perform t s).2.store = Step.applyAll steps s.store ∧
      ∀ cut, cut <+: steps → Resolves (Step.applyAll cut s.store) := by
  intro s
  have hstart : Kept [] w := ⟨hempty ▸ represents_empty root, hfault⟩
  have hkept := kept_runCalls_of_exact t calls hstart hcalls
  obtain ⟨p, w', hcarries, htries⟩ := c.exists_tries t hkept
  refine ⟨p.steps, ?_, ?_, fun cut hcut => ?_⟩
  · rw [hcarries.run, hcarries.journal]
  · rw [hcarries.run, hcarries.store]
    rfl
  · exact ((Call.throughout_tries hkept.represents hc htries).cut hcut).resolves

/-- A prune that takes the baseline may be stopped anywhere. -/
theorem resolves_at_every_step_pruning :
    let w := World.of (.empty (.clear "store"))
    let s := (runCalls still Call.settling ([], w)).2
    let c := Call.prune none (-1) false
    (∀ c ∈ Call.settling, c.Exact) ∧ c.Exact ∧
      ∃ steps, (c.perform still s).2.journal = s.journal ++ steps ∧
        (c.perform still s).2.store = Step.applyAll steps s.store ∧
        ∀ cut, cut <+: steps → Resolves (Step.applyAll cut s.store) := by
  intro w s c
  exact ⟨Call.exact_settling, trivial,
    resolves_at_every_step still (w := w) rfl rfl Call.settling Call.exact_settling trivial⟩

end ProofLedger
