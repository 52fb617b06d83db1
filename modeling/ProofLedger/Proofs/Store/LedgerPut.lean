import ProofLedger.Proofs.Store.Ledger

/-!
# Putting records into a ledger

What `put` makes of a directory that represents a ledger. A record that is put into the history
goes to the end of the ledger (`Represents.stores`); a record that becomes the baseline goes there
too unless it is in the ledger already (`Represents.promotes`). A `put` that fails changes no file
(`Plan.Ends.keeps`). `Represents.putHistory_ok_iff` says when a `put` into the history succeeds, and
`Represents.putBaseline_ok` that a record of the ledger can become the baseline.

The files and the index lines alone go the same way for every name that may be stored
(`Stocks.puts`).
-/

namespace ProofLedger.Directory

open Identity

/-- The ledger with a record at its end, unless it has the record. -/
def including (l : List ProofRecord) (r : ProofRecord) : List ProofRecord :=
  if r ∈ l then l else l ++ [r]

variable {d d' : Directory} {l : List ProofRecord} {r : ProofRecord}

/-! ## Files and index lines -/

theorem Stocks.of_same (h : Stocks d l) (hrecords : d'.records = d.records)
    (hindex : d'.index = d.index) (hsite : d'.site = d.site) : Stocks d' l where
  clear := by rw [hsite, h.clear]
  records := by rw [hrecords, h.records]
  index := by rw [hindex, h.index]
  nodup := h.nodup
  storable := h.storable
  short := h.short
  written := h.written

theorem Stocks.keeps (h : Stocks d l) (hd : Keeps d d') : Stocks d' l :=
  h.of_same hd.records hd.index hd.site

theorem Stocks.not_mem_names (h : Stocks d l) {id : Text} (hfree : d.isTaken id = false) :
    id ∉ names l := by
  intro hid
  rw [(h.isTaken_iff id).mpr hid] at hfree
  cases hfree

/-- A record that is stored comes to the end. -/
theorem Stocks.stores (h : Stocks d l) (hd : Stores r d d') : Stocks d' (l ++ [r]) := by
  obtain ⟨content, hcontent, hadds⟩ := hd.adds
  have hmem : ∀ {P : ProofRecord → Prop}, (∀ x ∈ l, P x) → P r → ∀ x ∈ l ++ [r], P x := by
    intro P hl hr x hx
    rcases List.mem_append.mp hx with hx | hx
    · exact hl x hx
    · exact List.mem_singleton.mp hx ▸ hr
  constructor
  case clear => rw [hadds.site, h.clear]
  case records =>
    rw [hadds.records, h.records, List.map_append]
    simp [fileOf, hcontent, Except.toOption]
  case index =>
    rw [hadds.index, Option.getD_some, h.index, names, names, List.map_append,
      List.flatMap_append]
    simp
  case nodup =>
    have hfresh := h.not_mem_names hadds.free
    rw [names, List.map_append, List.nodup_append]
    refine ⟨h.nodup, List.nodup_singleton _, fun a ha b hb hab => ?_⟩
    have hb : b = r.id.val := List.mem_singleton.mp hb
    rw [hab, hb] at ha
    exact hfresh ha
  case storable => exact hmem h.storable hd.storable
  case short => exact hmem h.short hadds.short
  case written => exact hmem h.written ⟨content, hcontent⟩

/-- A record whose file is there with its text is among the records. -/
theorem Stocks.mem_of_holds (h : Stocks d l) (hd : Holds r d d') : r ∈ l := by
  obtain ⟨content, hfile, hsame⟩ := hd.file
  have hname : r.id.val ∈ names l := by
    rw [← h.hasFile_iff, hasFile, hfile]
    rfl
  obtain ⟨r', hr', hid⟩ := List.mem_map.mp hname
  obtain ⟨content', hcontent'⟩ := h.written r' hr'
  have hfile' := h.file?_of_mem hr' hcontent'
  rw [hid, hfile] at hfile'
  cases hfile'
  exact sameText_documentOctets hcontent' hsame ▸ hr'

/-- A record whose name was free is not among the records. -/
theorem Stocks.not_mem_of_stores (h : Stocks d l) (hd : Stores r d d') : r ∉ l := by
  obtain ⟨content, -, hadds⟩ := hd.adds
  exact fun hmem => h.not_mem_names hadds.free (List.mem_map_of_mem hmem)

/-- A record that is put is among the records once, and no other comes or goes. -/
theorem Stocks.puts (h : Stocks d l) {slot : Slot} (hd : Puts r slot d d') :
    Stocks d' (including l r) := by
  cases slot with
  | history =>
    rw [including, if_neg (h.not_mem_of_stores hd)]
    exact h.stores hd
  | baseline =>
    obtain ⟨-, d₁, hfiles, hpoints⟩ := hd
    rcases hfiles with hholds | hstores
    · rw [including, if_pos (h.mem_of_holds hholds)]
      exact (h.keeps hholds.keeps).of_same hpoints.records hpoints.index hpoints.site
    · rw [including, if_neg (h.not_mem_of_stores hstores)]
      exact (h.stores hstores).of_same hpoints.records hpoints.index hpoints.site

/-- A record can be put into the history when its name is new and it has octets, and only
then. -/
theorem Stocks.putHistory_ok_iff (h : Stocks d l) (hname : isStorable r.id.val = true)
    (hshort : isLongName r.id.val = false) :
    (d.putHistory r).outcome = .ok () ↔
      r.id.val ∉ names l ∧ ∃ content, documentOctets r = .ok content := by
  constructor
  · intro hok
    obtain ⟨content, hcontent, hadds⟩ := ((putHistory_ends d r).of_ok hok).adds
    exact ⟨h.not_mem_names hadds.free, content, hcontent⟩
  · rintro ⟨hfresh, content, hcontent⟩
    have hfree : d.isTaken r.id.val = false :=
      Bool.eq_false_iff.mpr fun htaken => hfresh ((h.isTaken_iff _).mp htaken)
    have hcreate := create_ok hshort hfree (Site.appendFault?_of_clear h.clear) content
    rw [Directory.putHistory, checkName_eq_ok_iff.mpr hname, Plan.after_ok, hcontent,
      Plan.after_ok, Plan.outcome_andThen_ok hcreate]

/-! ## The whole ledger -/

/-- Exact names and a pointer into the records are all that a ledger needs beside its files. -/
theorem Stocks.represents (h : Stocks d l)
    (hpointer : d.pointer = none ∨ ∃ r ∈ l, d.pointer = some (octets (pointerText r.id.val)))
    (hexact : ∀ r ∈ l, IsExact r.id.val) : Represents d l where
  clear := h.clear
  records := h.records
  index := h.index
  pointer := hpointer
  nodup := h.nodup
  named r hr := ⟨hexact r hr, h.short r hr⟩
  written := h.written

theorem Represents.exact (h : Represents d l) : ∀ r ∈ l, IsExact r.id.val :=
  fun r hr => (h.named r hr).exact

theorem Represents.keeps (h : Represents d l) (hd : Keeps d d') : Represents d' l :=
  (h.stocks.keeps hd).represents (hd.pointer ▸ h.pointer) h.exact

theorem Represents.points (h : Represents d l) (hr : r ∈ l) (hd : Points r.id.val d d') :
    Represents d' l :=
  (h.stocks.of_same hd.records hd.index hd.site).represents (.inr ⟨r, hr, hd.pointer⟩) h.exact

/-- Nothing is in the way in a ledger, so that what fails changes no file. -/
theorem Represents.keeps_of_unmoved (h : Represents d l) (hd : Unmoved d d') : Keeps d d' :=
  hd.keeps h.clear

theorem Represents.stores (h : Represents d l) (hr : IsExact r.id.val) (hd : Stores r d d') :
    Represents d' (l ++ [r]) := by
  refine (h.stocks.stores hd).represents ?_ fun x hx => ?_
  · rw [hd.pointer]
    refine h.pointer.imp id ?_
    rintro ⟨x, hx, hpointer⟩
    exact ⟨x, List.mem_append_left _ hx, hpointer⟩
  · rcases List.mem_append.mp hx with hx | hx
    · exact h.exact x hx
    · exact List.mem_singleton.mp hx ▸ hr

/-- A record that is stored, or was stored before, is in the ledger then. -/
theorem Represents.ensures (h : Represents d l) (hr : IsExact r.id.val)
    (hd : Holds r d d' ∨ Stores r d d') : ∃ l', Represents d' l' ∧ r ∈ l' := by
  rcases hd with hholds | hstores
  · exact ⟨l, h.keeps hholds.keeps, h.stocks.mem_of_holds hholds⟩
  · exact ⟨l ++ [r], h.stores hr hstores, List.mem_append_right _ List.mem_cons_self⟩

/-- A record that has become the baseline is in the ledger, once. -/
theorem Represents.promotes (h : Represents d l) (hr : IsExact r.id.val)
    (hd : Promotes r d d') : Represents d' (including l r) := by
  obtain ⟨-, d₁, hfiles, hpoints⟩ := hd
  rcases hfiles with hholds | hstores
  · have hmem : r ∈ l := h.stocks.mem_of_holds hholds
    rw [including, if_pos hmem]
    exact (h.keeps hholds.keeps).points hmem hpoints
  · rw [including, if_neg (h.stocks.not_mem_of_stores hstores)]
    exact (h.stores hr hstores).points (List.mem_append_right _ List.mem_cons_self) hpoints

theorem Represents.putHistory_ok_iff (h : Represents d l) (hr : Named r) :
    (d.putHistory r).outcome = .ok () ↔
      r.id.val ∉ names l ∧ ∃ content, documentOctets r = .ok content :=
  h.stocks.putHistory_ok_iff hr.exact.isStorable hr.short

/-- A record of the ledger can be made the baseline when it is not. -/
theorem Represents.putBaseline_ok (h : Represents d l) (hr : r ∈ l)
    (hother : d.pointed ≠ .ok (.text r.id.val)) : (d.putBaseline r).outcome = .ok () := by
  obtain ⟨content, hcontent⟩ := h.written r hr
  have hcurrent : ∃ current, d.pointed = .ok current ∧ notBaseline current r.id.val = .ok () := by
    rcases h.pointed_cases with ⟨-, hpointed⟩ | ⟨b, -, -, hpointed⟩
    · exact ⟨.null, hpointed, rfl⟩
    · refine ⟨.text b.id.val, hpointed, ?_⟩
      rw [notBaseline, if_neg]
      intro hsame
      rw [hsame] at hpointed
      exact hother hpointed
  obtain ⟨current, hpointed, hnot⟩ := hcurrent
  have hensure : (d.ensure r).outcome = .ok () := by
    rw [ensure, checkLength_eq_ok_iff.mpr (h.named r hr).short, Plan.after_ok, h.check,
      Plan.after_ok, h.file?_of_mem hr hcontent]
    simp only [sameText_self hcontent, Plan.after_ok]
    rfl
  rw [putBaseline, hpointed, Plan.after_ok, hnot, Plan.after_ok,
    checkName_eq_ok_iff.mpr (h.named r hr).exact.isStorable, Plan.after_ok,
    Plan.outcome_andThen_ok hensure]

end ProofLedger.Directory
