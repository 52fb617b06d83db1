import Mathlib.Data.List.Nodup
import ProofLedger.Proofs.Store.Files

/-!
# A store as a ledger

`Stocks d l` says that the directory `d` has a file and an index line for each of the records `l`,
in their order, under any names that may be stored. `Represents d l` adds that the pointer names
one of them or nothing, and that names are exact. It is what every mutation keeps: a record that
is put goes to the end, and records that are pruned drop out, while a mutation that fails leaves
the ledger as it was.

From it the answers of the store follow: which names the history lists, what is under a name,
and what the baseline is (`Represents.baseline_cases`). Of a name that is not exact an index loses
a part, and so `Stocks` says less of the history (`Stocks.history`).
-/

namespace ProofLedger.Directory

open Identity

/-- The names of records. -/
def names (l : List ProofRecord) : List Text := l.map (·.id.val)

/-- The file of a record. -/
def fileOf (r : ProofRecord) : Text × Bytes := (r.id.val, (documentOctets r).toOption.getD [])

/-- A record that a ledger may hold: its name comes back from an index and fits a disk. -/
structure Named (r : ProofRecord) : Prop where
  exact : IsExact r.id.val
  short : isLongName r.id.val = false

/-- The directory has a file and an index line for each of the records, in the order of their
arrival. -/
structure Stocks (d : Directory) (l : List ProofRecord) : Prop where
  clear : d.site.defects = []
  records : d.records = l.map fileOf
  index : d.index.getD [] = (names l).flatMap indexLine
  nodup : (names l).Nodup
  storable : ∀ r ∈ l, isStorable r.id.val = true
  short : ∀ r ∈ l, isLongName r.id.val = false
  written : ∀ r ∈ l, ∃ content, documentOctets r = .ok content

/-- The directory holds the records, in the order of their arrival. -/
structure Represents (d : Directory) (l : List ProofRecord) : Prop where
  clear : d.site.defects = []
  records : d.records = l.map fileOf
  index : d.index.getD [] = (names l).flatMap indexLine
  pointer : d.pointer = none ∨ ∃ r ∈ l, d.pointer = some (octets (pointerText r.id.val))
  nodup : (names l).Nodup
  named : ∀ r ∈ l, Named r
  written : ∀ r ∈ l, ∃ content, documentOctets r = .ok content

theorem Represents.stocks {d : Directory} {l : List ProofRecord} (h : Represents d l) :
    Stocks d l where
  clear := h.clear
  records := h.records
  index := h.index
  nodup := h.nodup
  storable r hr := (h.named r hr).exact.isStorable
  short r hr := (h.named r hr).short
  written := h.written

theorem stocks_empty (root : Text) : Stocks (.empty (.clear root)) [] where
  clear := rfl
  records := rfl
  index := rfl
  nodup := List.nodup_nil
  storable := fun _ h => nomatch h
  short := fun _ h => nomatch h
  written := fun _ h => nomatch h

theorem represents_empty (root : Text) : Represents (.empty (.clear root)) [] where
  clear := rfl
  records := rfl
  index := rfl
  pointer := .inl rfl
  nodup := List.nodup_nil
  named := fun _ h => nomatch h
  written := fun _ h => nomatch h

section Stock

variable {d : Directory} {l : List ProofRecord} (h : Stocks d l)
include h

theorem Stocks.isFolder (name : Text) : d.site.isFolder name = false :=
  Site.isFolder_of_clear h.clear name

/-- Records of one name are one record. -/
theorem Stocks.eq_of_name {r r' : ProofRecord} (hr : r ∈ l) (hr' : r' ∈ l)
    (hid : r.id.val = r'.id.val) : r = r' := List.inj_on_of_nodup_map h.nodup hr hr' hid

theorem Stocks.file?_of_mem {r : ProofRecord} (hr : r ∈ l) {content : Bytes}
    (hcontent : documentOctets r = .ok content) : d.file? r.id.val = some content := by
  have hfind : l.find? (fun x => x.id.val == r.id.val) = some r := by
    cases hfound : l.find? (fun x => x.id.val == r.id.val) with
    | none => exact absurd (List.find?_eq_none.mp hfound r hr) (by simp)
    | some x =>
      have hid : x.id.val = r.id.val := by simpa using List.find?_some hfound
      rw [h.eq_of_name (List.mem_of_find?_eq_some hfound) hr hid]
  have hcomp : (fun e : Text × Bytes => e.1 == r.id.val) ∘ fileOf = fun x => x.id.val == r.id.val :=
    rfl
  rw [file?, h.records, List.find?_map, hcomp, hfind]
  simp [fileOf, hcontent, Except.toOption]

theorem Stocks.file?_of_not_mem {id : Text} (hid : id ∉ names l) : d.file? id = none := by
  rw [file?, h.records, Option.map_eq_none_iff, List.find?_eq_none]
  intro e he hname
  obtain ⟨r, hr, rfl⟩ := List.mem_map.mp he
  exact hid (List.mem_map.mpr ⟨r, hr, beq_iff_eq.mp hname⟩)

theorem Stocks.hasFile_iff (id : Text) : d.hasFile id = true ↔ id ∈ names l := by
  constructor
  · intro hfile
    by_cases hid : id ∈ names l
    · exact hid
    · rw [hasFile, h.file?_of_not_mem hid] at hfile
      cases hfile
  · intro hid
    obtain ⟨r, hr, rfl⟩ := List.mem_map.mp hid
    obtain ⟨content, hcontent⟩ := h.written r hr
    rw [hasFile, h.file?_of_mem hr hcontent]
    rfl

theorem Stocks.isTaken_iff (id : Text) : d.isTaken id = true ↔ id ∈ names l := by
  rw [isTaken, h.isFolder, Bool.or_false, h.hasFile_iff]

/-- The history lists every record once, but for a line feed at the end of its name. -/
theorem Stocks.history : d.history = .ok ((names l).map bare) := by
  refine history_bare (Site.check_eq_ok_iff.mpr (h.isFolder _)) (fun id hid => ?_) h.index
  obtain ⟨r, hr, rfl⟩ := List.mem_map.mp hid
  exact h.storable r hr

/-- A record is got under its name, whatever the index makes of the name. -/
theorem Stocks.get_of_mem {r : ProofRecord} (hr : r ∈ l) : d.get r.id.val = .ok r := by
  obtain ⟨content, hcontent⟩ := h.written r hr
  exact get_of_file (h.storable r hr) (h.short r hr) (h.isFolder _) hcontent
    (h.file?_of_mem hr hcontent)

/-- What is got is among the records. -/
theorem Stocks.mem_of_get {id : Text} {r : ProofRecord} (hget : d.get id = .ok r) :
    r ∈ l ∧ r.id.val = id := by
  obtain ⟨content, hcontent, -⟩ := bind_eq_ok hget
  obtain ⟨_, -, hcontent⟩ := bind_eq_ok hcontent
  obtain ⟨_, -, hcontent⟩ := bind_eq_ok hcontent
  obtain ⟨_, -, hcontent⟩ := bind_eq_ok hcontent
  have hid : id ∈ names l := by
    rw [← h.hasFile_iff, hasFile]
    split at hcontent
    · next hfile =>
      rw [hfile]
      rfl
    · cases hcontent
  obtain ⟨r', hr', rfl⟩ := List.mem_map.mp hid
  rw [h.get_of_mem hr'] at hget
  cases hget
  exact ⟨hr', rfl⟩

end Stock

section Answers

variable {d : Directory} {l : List ProofRecord} (h : Represents d l)
include h

theorem Represents.isFolder (name : Text) : d.site.isFolder name = false := h.stocks.isFolder name

theorem Represents.check (name : Text) : d.site.check name = .ok () :=
  Site.check_eq_ok_iff.mpr (h.isFolder name)

/-- Records of one name are one record. -/
theorem Represents.eq_of_name {r r' : ProofRecord} (hr : r ∈ l) (hr' : r' ∈ l)
    (hid : r.id.val = r'.id.val) : r = r' := h.stocks.eq_of_name hr hr' hid

theorem Represents.file?_of_mem {r : ProofRecord} (hr : r ∈ l) {content : Bytes}
    (hcontent : documentOctets r = .ok content) : d.file? r.id.val = some content :=
  h.stocks.file?_of_mem hr hcontent

theorem Represents.file?_of_not_mem {id : Text} (hid : id ∉ names l) : d.file? id = none :=
  h.stocks.file?_of_not_mem hid

theorem Represents.isTaken_iff (id : Text) : d.isTaken id = true ↔ id ∈ names l :=
  h.stocks.isTaken_iff id

/-- The history lists the records in the order of their arrival. -/
theorem Represents.history : d.history = .ok (names l) := by
  refine history_eq (h.check indexName) (fun id hid => ?_) h.index
  obtain ⟨r, hr, rfl⟩ := List.mem_map.mp hid
  exact (h.named r hr).exact

/-- A record of the ledger is got under its name. -/
theorem Represents.get_of_mem {r : ProofRecord} (hr : r ∈ l) : d.get r.id.val = .ok r :=
  h.stocks.get_of_mem hr

theorem Represents.contains_of_mem {r : ProofRecord} (hr : r ∈ l) :
    d.contains r.id.val = .ok true := by
  have htaken : d.isTaken r.id.val = true := (h.isTaken_iff _).mpr (List.mem_map_of_mem hr)
  rw [contains, if_pos (h.named r hr).exact.isStorable,
    checkLength_eq_ok_iff.mpr (h.named r hr).short, Except.map, htaken]

/-- Under any other name there is nothing, as far as a disk can have such a name. -/
theorem Represents.get_of_not_mem {id : Text} (hid : id ∉ names l)
    (hshort : isStorable id = true → isLongName id = false) :
    ∃ e : LedgerError, d.get id = .error (.ledger e) ∧ e.code = .notFound := by
  cases hname : isStorable id with
  | false =>
    refine ⟨.invalidId id, ?_, rfl⟩
    rw [get, content, checkName, hname]
    rfl
  | true =>
    refine ⟨.absent id, ?_, rfl⟩
    rw [get, content, checkName_eq_ok_iff.mpr hname, checkLength_eq_ok_iff.mpr (hshort hname),
      h.check, h.file?_of_not_mem hid]
    rfl

theorem Represents.contains_of_not_mem {id : Text} (hid : id ∉ names l)
    (hshort : isStorable id = true → isLongName id = false) : d.contains id = .ok false := by
  cases hname : isStorable id with
  | false =>
    rw [contains, hname]
    rfl
  | true =>
    have hfree : d.isTaken id = false :=
      Bool.eq_false_iff.mpr fun htaken => hid ((h.isTaken_iff id).mp htaken)
    rw [contains, if_pos hname, checkLength_eq_ok_iff.mpr (hshort hname), Except.map, hfree]

/-- What is got is in the ledger. -/
theorem Represents.mem_of_get {id : Text} {r : ProofRecord} (hget : d.get id = .ok r) :
    r ∈ l ∧ r.id.val = id := h.stocks.mem_of_get hget

/-- The newest record of the history is the newest of the ledger, if it has records. -/
theorem Represents.latestInHistory_eq :
    d.latestInHistory = (newest l).elim (.error (.ledger .emptyHistory)) .ok := by
  have hget : ∀ rest ⊆ l, (names rest).mapM d.get = .ok rest := by
    intro rest
    induction rest with
    | nil => exact fun _ => rfl
    | cons x rest ih =>
      intro hrest
      have hx := h.get_of_mem (hrest List.mem_cons_self)
      have hrest := ih fun y hy => hrest (List.mem_cons_of_mem _ hy)
      rw [names] at hrest
      rw [names, List.map_cons, List.mapM_cons, hx, hrest]
      rfl
  rw [latestInHistory, h.history]
  simp only [bind, Except.bind, hget l (List.Subset.refl l)]
  cases newest l with
  | none => rfl
  | some r => rfl

/-- What the pointer names is in the ledger. -/
theorem Represents.pointed_cases :
    (d.pointer = none ∧ d.pointed = .ok .null) ∨
      ∃ r ∈ l, d.pointer = some (octets (pointerText r.id.val)) ∧
        d.pointed = .ok (.text r.id.val) := by
  rcases h.pointer with hnone | ⟨r, hr, hpointer⟩
  · exact .inl ⟨hnone, pointed_none (h.check pointerName) hnone⟩
  · exact .inr ⟨r, hr, hpointer, pointed_eq (h.check pointerName) (h.named r hr).exact hpointer⟩

/-- A name that is not in the ledger is not what the pointer names. -/
theorem Represents.pointed_ne {id : Text} (hid : id ∉ names l) : d.pointed ≠ .ok (.text id) := by
  intro hsame
  rcases h.pointed_cases with ⟨-, hpointed⟩ | ⟨r, hr, -, hpointed⟩
  · rw [hpointed] at hsame
    cases hsame
  · rw [hpointed] at hsame
    cases hsame
    exact hid (List.mem_map_of_mem hr)

/-- The baseline is a record of the ledger, or there is none. -/
theorem Represents.baseline_cases :
    (d.pointer = none ∧ d.baseline = .error (.ledger .noBaseline)) ∨
      ∃ r ∈ l, d.pointer = some (octets (pointerText r.id.val)) ∧ d.baseline = .ok r := by
  rcases h.pointed_cases with ⟨hpointer, hpointed⟩ | ⟨r, hr, hpointer, hpointed⟩
  · refine .inl ⟨hpointer, ?_⟩
    rw [baseline, hpointed]
    rfl
  · refine .inr ⟨r, hr, hpointer, ?_⟩
    rw [baseline, hpointed]
    exact h.get_of_mem hr

/-- What the pointer names is the same in every directory with that pointer. -/
theorem Represents.pointed_congr {d' : Directory} (hcheck : d'.site.check pointerName = .ok ())
    (hpointer : d'.pointer = d.pointer) : d'.pointed = d.pointed := by
  rcases h.pointed_cases with ⟨hnone, hpointed⟩ | ⟨r, hr, hsome, hpointed⟩
  · rw [hpointed, pointed_none hcheck (hpointer.trans hnone)]
  · rw [hpointed, pointed_eq hcheck (h.named r hr).exact (hpointer.trans hsome)]

/-- The pointer alone says which record is the baseline, while none comes in another's place. -/
theorem Represents.baseline_congr {d' : Directory} {l' : List ProofRecord}
    (h' : Represents d' l') (hpointer : d'.pointer = d.pointer) (hl : l ⊆ l' ∨ l' ⊆ l) :
    d'.baseline = d.baseline := by
  have hpointed : d'.pointed = d.pointed := h.pointed_congr (h'.check pointerName) hpointer
  rcases h.pointed_cases with ⟨-, hnone⟩ | ⟨r, hr, -, hname⟩
  · rw [baseline, baseline, hpointed, hnone]
    rfl
  · rcases h'.pointed_cases with ⟨-, hnone⟩ | ⟨r', hr', -, hname'⟩
    · rw [hpointed, hname] at hnone
      cases hnone
    · have hid : r.id.val = r'.id.val := by
        rw [hpointed, hname] at hname'
        exact Data.text.inj (Except.ok.inj hname')
      have hsame : r = r' := by
        rcases hl with hl | hl
        · exact h'.eq_of_name (hl hr) hr' hid
        · exact h.eq_of_name hr (hl hr') hid
      have hget : d'.get r.id.val = .ok r := h'.get_of_mem (hsame ▸ hr')
      rw [baseline, baseline, hpointed, hname]
      exact hget.trans (h.get_of_mem hr).symm

end Answers

end ProofLedger.Directory
