import ProofLedger.Proofs.Outcome
import ProofLedger.Store.Write

/-!
# What the mutations of a store can do

Whatever a directory holds, a `put` ends in one of few ways, with what has become of the record
files, the index and the pointer: `putHistory_ends` says so of the history and `putBaseline_ends`
of the baseline. Everything else that is said of a store is derived from these two and from
`pruneBefore`. `Plan.Ends` is what they have in common: a mutation does what it is for, or it
fails and the files are as they were. There is one exception, a record file that has come to lie
beside an index that takes no line on it, or only a part of one (`Strands`).

The temporary file is left out: each mutation writes it before using it.
-/

namespace ProofLedger

namespace Step

theorem applyAll_append (a b : List Step) (d : Directory) :
    applyAll (a ++ b) d = applyAll b (applyAll a d) := by
  rw [applyAll, List.foldl_append]
  rfl

end Step

namespace Plan

variable {α β : Type}

theorem returning_returning {γ : Type} (p : Plan α) (b : β) (c : γ) :
    (p.returning b).returning c = p.returning c := by
  rw [returning, returning, returning]
  cases p.outcome <;> rfl

theorem after_ok (a : α) (next : α → Plan β) : after (.ok a) next = next a := rfl

theorem final_andThen_ok {p : Plan α} {a : α} (h : p.outcome = .ok a) (next : α → Plan β)
    (d : Directory) : (p.andThen next).final d = (next a).final (p.final d) := by
  simp only [andThen, h, final, Step.applyAll_append]

theorem outcome_andThen_ok {p : Plan α} {a : α} (h : p.outcome = .ok a) (next : α → Plan β) :
    (p.andThen next).outcome = (next a).outcome := by simp only [andThen, h]

theorem final_andThen_error {p : Plan α} {f : Failure} (h : p.outcome = .error f)
    (next : α → Plan β) (d : Directory) : (p.andThen next).final d = p.final d := by
  simp only [andThen, h, final]

theorem outcome_andThen_error {p : Plan α} {f : Failure} (h : p.outcome = .error f)
    (next : α → Plan β) : (p.andThen next).outcome = .error f := by simp only [andThen, h]

end Plan

theorem Site.check_eq_ok_iff {s : Site} {name : Text} :
    s.check name = .ok () ↔ s.isFolder name = false := by
  rw [check]
  split
  · next h => simp [h]
  · next h => simp [h]

theorem Site.isFolder_of_clear {s : Site} (h : s.defects = []) (name : Text) :
    s.isFolder name = false := by
  rw [isFolder, h]
  rfl

theorem Site.appendFault?_of_clear {s : Site} (h : s.defects = []) : s.appendFault? = none := by
  rw [appendFault?, isFolder_of_clear h, h]
  rfl

namespace Directory

theorem checkName_eq_ok_iff {id : Text} :
    checkName id = .ok () ↔ Identity.isStorable id = true := by
  rw [checkName]
  split
  · next h => simp [h]
  · next h => simp [h]

theorem checkLength_eq_ok_iff {d : Directory} {id : Text} :
    d.checkLength id = .ok () ↔ isLongName id = false := by
  rw [checkLength]
  split
  · next h => simp [h]
  · next h => simp [h]

/-! ## What becomes of the files -/

/-- No file has changed. -/
structure Keeps (d d' : Directory) : Prop where
  records : d'.records = d.records
  index : d'.index = d.index
  pointer : d'.pointer = d.pointer
  site : d'.site = d.site

theorem Keeps.refl (d : Directory) : Keeps d d := ⟨rfl, rfl, rfl, rfl⟩

/-- A record file has come, and a line of the index with it. -/
structure Adds (id : Text) (content : Bytes) (d d' : Directory) : Prop where
  free : d.isTaken id = false
  short : isLongName id = false
  records : d'.records = d.records ++ [(id, content)]
  index : d'.index = some (d.index.getD [] ++ indexLine id)
  pointer : d'.pointer = d.pointer
  site : d'.site = d.site

/-- The index with the part of a line that comes to stand in it, if it is opened at all. -/
def withPart (index : Option Bytes) (line : Bytes) : Option Nat → Option Bytes
  | none => index
  | some n => some (index.getD [] ++ line.take n)

/-- A record file has come, but the index did not take the line on it. -/
structure Strands (id : Text) (content : Bytes) (d d' : Directory) : Prop where
  free : d.isTaken id = false
  records : d'.records = d.records ++ [(id, content)]
  index : ∃ f written, d.site.appendFault? = some (f, written) ∧
    d'.index = withPart d.index (indexLine id) written
  pointer : d'.pointer = d.pointer
  site : d'.site = d.site

/-- The pointer has come to name a record; the other files are as they are there. -/
structure Points (id : Text) (d d' : Directory) : Prop where
  records : d'.records = d.records
  index : d'.index = d.index
  pointer : d'.pointer = some (octets (pointerText id))
  site : d'.site = d.site

/-- What a mutation that failed has done to the files: nothing, or it has left a record file
without a line of the index. -/
def Unmoved (d d' : Directory) : Prop :=
  Keeps d d' ∨ ∃ id content, Strands id content d d'

/-- A record is stored: under a name that was free its octets have come, and a line of the
index. -/
structure Stores (r : ProofRecord) (d d' : Directory) : Prop where
  storable : Identity.isStorable r.id.val = true
  adds : ∃ content, documentOctets r = .ok content ∧ Adds r.id.val content d d'

/-- The file of a record is there already, with its text. -/
structure Holds (r : ProofRecord) (d d' : Directory) : Prop where
  keeps : Keeps d d'
  short : isLongName r.id.val = false
  file : ∃ content, d.file? r.id.val = some content ∧ sameText r content = .ok ()

/-- A record has become the baseline: its file is there or has come, and then the pointer has
moved to it from something else. -/
structure Promotes (r : ProofRecord) (d d' : Directory) : Prop where
  other : ∃ current, d.pointed = .ok current ∧ current ≠ .text r.id.val
  files : ∃ d₁, (Holds r d d₁ ∨ Stores r d d₁) ∧ Points r.id.val d₁ d'

/-- A record is where its slot wants it: stored in the history, or the baseline. -/
def Puts (r : ProofRecord) (slot : Slot) (d d' : Directory) : Prop :=
  match slot with
  | .history => Stores r d d'
  | .baseline => Promotes r d d'

section Pointers

variable {d d' : Directory} {r : ProofRecord}

theorem Unmoved.pointer (h : Unmoved d d') : d'.pointer = d.pointer := by
  rcases h with h | ⟨id, content, h⟩
  · exact h.pointer
  · exact h.pointer

/-- No record file is stranded where nothing is in the way. -/
theorem Unmoved.keeps (h : Unmoved d d') (hclear : d.site.defects = []) : Keeps d d' := by
  rcases h with hkeeps | ⟨id, content, hstrands⟩
  · exact hkeeps
  · obtain ⟨f, written, hbroken, -⟩ := hstrands.index
    cases (Site.appendFault?_of_clear hclear).symm.trans hbroken

theorem Stores.pointer (h : Stores r d d') : d'.pointer = d.pointer := by
  obtain ⟨content, -, hadds⟩ := h.adds
  exact hadds.pointer

theorem Promotes.pointer (h : Promotes r d d') :
    d'.pointer = some (octets (pointerText r.id.val)) := by
  obtain ⟨d₁, -, hpoints⟩ := h.files
  exact hpoints.pointer

end Pointers

end Directory

/-! ## How a mutation ends -/

namespace Plan

open Directory

variable {α : Type} {d : Directory} {S S' : Directory → Prop}

/-- A mutation does to the directory what is asked of it, or it fails. -/
def Ends (p : Plan Unit) (d : Directory) (S : Directory → Prop) : Prop :=
  (p.outcome = .ok () ∧ S (p.final d)) ∨ ∃ f, p.outcome = .error f ∧ Unmoved d (p.final d)

theorem Ends.of_ok {p : Plan Unit} (h : p.Ends d S) (hok : p.outcome = .ok ()) :
    S (p.final d) := by
  rcases h with ⟨-, hdone⟩ | ⟨f, hfail, -⟩
  · exact hdone
  · rw [hok] at hfail
    cases hfail

theorem Ends.of_error {p : Plan Unit} (h : p.Ends d S) {f : Failure}
    (hfail : p.outcome = .error f) : Unmoved d (p.final d) := by
  rcases h with ⟨hok, -⟩ | ⟨_, -, hfiles⟩
  · rw [hfail] at hok
    cases hok
  · exact hfiles

/-- Where nothing is in the way, a mutation that fails changes no file. -/
theorem Ends.keeps {p : Plan Unit} (h : p.Ends d S) (hclear : d.site.defects = []) :
    (p.outcome = .ok () ∧ S (p.final d)) ∨ ∃ f, p.outcome = .error f ∧ Keeps d (p.final d) := by
  rcases h with hdone | ⟨f, hfail, hfiles⟩
  · exact .inl hdone
  · exact .inr ⟨f, hfail, hfiles.keeps hclear⟩

theorem Ends.imp {p : Plan Unit} (h : p.Ends d S) (hS : ∀ d', S d' → S' d') : p.Ends d S' :=
  Or.imp_left (fun ⟨hok, hdone⟩ => ⟨hok, hS _ hdone⟩) h

/-- What cannot be found out beforehand changes nothing. -/
theorem ends_after {x : Except Failure α} {next : α → Plan Unit}
    (h : ∀ a, x = .ok a → (next a).Ends d S) : (after x next).Ends d S := by
  cases x with
  | error f => exact .inr ⟨f, rfl, .inl (Keeps.refl d)⟩
  | ok a => exact h a rfl

/-- What follows a mutation does not fail. -/
theorem ends_andThen {p : Plan Unit} {next : Unit → Plan Unit} (h : p.Ends d S)
    (hok : (next ()).outcome = .ok ()) (hS : ∀ d', S d' → S' ((next ()).final d')) :
    (p.andThen next).Ends d S' := by
  rcases h with ⟨hdone, hfiles⟩ | ⟨f, hfail, hfiles⟩
  · refine .inl ⟨(outcome_andThen_ok hdone next).trans hok, ?_⟩
    rw [final_andThen_ok hdone]
    exact hS _ hfiles
  · refine .inr ⟨f, outcome_andThen_error hfail next, ?_⟩
    rw [final_andThen_error hfail]
    exact hfiles

end Plan

namespace Directory

/-! ## Making a record file -/

theorem linkTemp_free {d : Directory} {id : Text} (hfree : d.isTaken id = false)
    (content : Bytes) :
    Step.applyAll [.writeTemp content, .linkTemp id, .removeTemp] d =
      { d with records := d.records ++ [(id, content)], temp := none } := by
  rw [isTaken, Bool.or_eq_false_iff] at hfree
  have hfile : ({ d with temp := some content } : Directory).hasFile id = false := hfree.1
  simp only [Step.applyAll, List.foldl_cons, List.foldl_nil, Step.apply, hfile,
    Bool.false_eq_true, if_false]

theorem final_createSteps {d : Directory} {id : Text} (hfree : d.isTaken id = false)
    (content : Bytes) : Step.applyAll (createSteps id content) d =
      { d with
        records := d.records ++ [(id, content)]
        index := some (d.index.getD [] ++ indexLine id)
        temp := none } := by
  have hsplit : createSteps id content =
      [.writeTemp content, .linkTemp id, .removeTemp] ++ [.appendIndex (indexLine id)] := rfl
  rw [hsplit, Step.applyAll_append, linkTemp_free hfree content]
  rfl

theorem final_strandSteps {d : Directory} {id : Text} (hfree : d.isTaken id = false)
    (content : Bytes) (written : Option Nat) : Step.applyAll (strandSteps id content written) d =
      { d with
        records := d.records ++ [(id, content)]
        index := withPart d.index (indexLine id) written
        temp := none } := by
  rw [strandSteps, Step.applyAll_append, linkTemp_free hfree content]
  cases written <;> rfl

theorem strands_of_strandSteps {d : Directory} {id : Text} (hfree : d.isTaken id = false)
    {f : Failure} {written : Option Nat} (hbroken : d.site.appendFault? = some (f, written))
    (content : Bytes) :
    Strands id content d (Step.applyAll (strandSteps id content written) d) := by
  rw [final_strandSteps hfree]
  exact ⟨hfree, rfl, ⟨f, written, hbroken, rfl⟩, rfl, rfl⟩

theorem create_ends (d : Directory) (id : Text) (content : Bytes) :
    (d.create id content).Ends d (Adds id content d) := by
  have hfail : ∀ f, (fail content f).Ends d (Adds id content d) :=
    fun f => .inr ⟨f, rfl, .inl ⟨rfl, rfl, rfl, rfl⟩⟩
  unfold create
  split
  · next f _ => exact hfail f
  · exact hfail _
  · next hfree hbroken =>
    exact .inr ⟨_, rfl, .inr ⟨id, content, strands_of_strandSteps hfree hbroken content⟩⟩
  · next hlength hfree _ =>
    have hshort := checkLength_eq_ok_iff.mp hlength
    refine .inl ⟨rfl, hfree, hshort, ?_, ?_, ?_, ?_⟩ <;>
      rw [Plan.final, final_createSteps hfree content]

/-- When a name is free and short and the index takes lines, its record file is made. -/
theorem create_ok {d : Directory} {id : Text} (hshort : isLongName id = false)
    (hfree : d.isTaken id = false) (hindex : d.site.appendFault? = none) (content : Bytes) :
    (d.create id content).outcome = .ok () := by
  rw [create, checkLength_eq_ok_iff.mpr hshort, hfree, hindex]

/-! ## Storing a record in the history -/

theorem putHistory_ends (d : Directory) (r : ProofRecord) :
    (d.putHistory r).Ends d (Stores r d) := by
  refine Plan.ends_after fun _ hname => Plan.ends_after fun content hcontent => ?_
  refine Plan.ends_andThen (create_ends d r.id.val content) rfl fun d' hadds => ?_
  exact ⟨checkName_eq_ok_iff.mp hname, content, hcontent, hadds⟩

theorem ensure_ends (d : Directory) {r : ProofRecord}
    (hname : Identity.isStorable r.id.val = true) :
    (d.ensure r).Ends d fun d' => Holds r d d' ∨ Stores r d d' := by
  refine Plan.ends_after fun _ hlength => Plan.ends_after fun _ _ => ?_
  cases hfile : d.file? r.id.val with
  | some content =>
    refine Plan.ends_after fun _ hsame => .inl ⟨rfl, .inl ⟨Keeps.refl d, ?_, ?_⟩⟩
    · exact checkLength_eq_ok_iff.mp hlength
    · exact ⟨content, hfile, hsame⟩
  | none =>
    refine Plan.ends_after fun content hcontent => ?_
    have hcreate := create_ends d r.id.val content
    exact hcreate.imp fun d' hadds => .inr ⟨hname, content, hcontent, hadds⟩

theorem putBaseline_ends (d : Directory) (r : ProofRecord) :
    (d.putBaseline r).Ends d (Promotes r d) := by
  refine Plan.ends_after fun current hpointed => Plan.ends_after fun _ hcurrent => ?_
  refine Plan.ends_after fun _ hname => ?_
  have hother : current ≠ .text r.id.val := by
    rintro rfl
    rw [notBaseline, if_pos rfl] at hcurrent
    cases hcurrent
  have hensure := ensure_ends d (checkName_eq_ok_iff.mp hname)
  refine Plan.ends_andThen hensure rfl fun d' hfiles => ?_
  exact ⟨⟨current, hpointed, hother⟩, d', hfiles, ⟨rfl, rfl, rfl, rfl⟩⟩

/-- What a `put` does, whatever its slot. -/
theorem put_ends (d : Directory) (r : ProofRecord) (slot : Slot) :
    (d.put r slot).Ends d (Puts r slot d) := by
  cases slot with
  | history => exact putHistory_ends d r
  | baseline => exact putBaseline_ends d r

end Directory

end ProofLedger
