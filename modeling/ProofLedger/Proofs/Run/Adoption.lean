import ProofLedger.Proofs.Run.Account
import ProofLedger.Proofs.Run.Derived

/-!
# Whether a run for the baseline has made its record the baseline

`run_adopts_or_leaves`: a run for the baseline ends with the pointer naming its record, and says
so (`Adopts`), or it leaves the pointer as it was and says that (`Leaves`). Nothing is assumed of
the store, so the pointer may be damaged, or name a record that is not there. It cannot name the
record of the run beforehand, since a run begins with reading the record that is named, and its own
record gets a name under which there is none.
-/

namespace ProofLedger

namespace Directory

variable {d d' : Directory} {r : ProofRecord}

theorem pointed_congr (hsite : d'.site = d.site) (hpointer : d'.pointer = d.pointer) :
    d'.pointed = d.pointed := by
  rw [pointed, pointed, hsite, hpointer]

theorem Unmoved.site (h : Unmoved d d') : d'.site = d.site := by
  rcases h with h | ⟨id, content, h⟩
  · exact h.site
  · exact h.site

theorem Stores.site (h : Stores r d d') : d'.site = d.site := by
  obtain ⟨content, -, hadds⟩ := h.adds
  exact hadds.site

/-- There was no record under the name of one that has been stored. -/
theorem Stores.get_before (h : Stores r d d') :
    d.get r.id.val = .error (.ledger (.absent r.id.val)) := by
  obtain ⟨content, -, hadds⟩ := h.adds
  obtain ⟨hfile, hfolder⟩ := Bool.or_eq_false_iff.mp hadds.free
  have hnone : d.file? r.id.val = none :=
    Option.isNone_iff_eq_none.mp (Option.isSome_eq_false_iff.mp hfile)
  have hcontent : d.content r.id.val = .error (.ledger (.absent r.id.val)) := by
    rw [Directory.content, checkName_eq_ok_iff.mpr h.storable,
      checkLength_eq_ok_iff.mpr hadds.short, Site.check_eq_ok_iff.mpr hfolder, hnone]
    rfl
  rw [Directory.get, hcontent]
  rfl

theorem Promotes.site (h : Promotes r d d') : d'.site = d.site := by
  obtain ⟨d₁, hfiles, hpoints⟩ := h.files
  rcases hfiles with hholds | hstores
  · exact hpoints.site.trans hholds.keeps.site
  · exact hpoints.site.trans hstores.site

/-- The pointer names the record that has become the baseline. -/
theorem Promotes.pointed (h : Promotes r d d') (hexact : Identity.IsExact r.id.val) :
    d'.pointed = .ok (.text r.id.val) := by
  obtain ⟨current, hcurrent, -⟩ := h.other
  obtain ⟨_, hcheck, -⟩ := bind_eq_ok hcurrent
  exact pointed_eq (h.site ▸ hcheck) hexact h.pointer

end Directory

open Directory

namespace Pipeline

/-- The pointer names the record of the run, and the run says so. -/
structure Adopts (o : Outcome) (d : Directory) (r : ProofRecord) : Prop where
  record : o.run.record = some r
  raised : o.raised = none
  failure : o.run.failure = none
  slot : o.run.slot = .baseline
  promoted : o.run.baselinePromoted = true
  compared : o.run.comparison.isSome = true → o.run.comparisonSkipped = false
  written : ∃ t, r.dumps = .ok t
  pointed : d.pointed = .ok (.text r.id.val)
  baseline : d.baseline = .ok r

/-- The pointer is as it was and does not name the record of the run; where nothing has failed
that is because of a change of the hash. -/
structure Leaves (o : Outcome) (d d' : Directory) : Prop where
  pointer : d'.pointer = d.pointer
  other : ∀ r, o.run.record = some r → d'.pointed ≠ .ok (.text r.id.val)
  refused : o.raised = none → o.run.baselinePromoted = false ∧
    o.run.comparison.map ComparisonReport.verdict = some .hashMismatch

variable {p : Pipeline} {t : Instruments} {i : ProveInput} {label testName : Data} {slot : Slot}
  {accept : Bool} {w : World} {r : ProofRecord} {d d' : Directory}

/-- A run that has a record has read its reference before. -/
theorem exists_read (hrecord : (p.run t i label testName slot accept w).1.run.record = some r) :
    ∃ ref, (reference slot w).1 = .ok ref := by
  rcases hread : reference slot w with ⟨f | ref, w₁⟩
  · obtain ⟨w₂, hrun, -⟩ := run_of_error (Stage.bind_eq_of_error (Stage.ofAct_eq hread _)) rfl
    change p.run t i label testName slot accept w = _ at hrun
    rw [hrun, record_stopped] at hrecord
    cases hrecord
  · exact ⟨ref, rfl⟩

/-- No reference is read where the pointer names a record that is not there. -/
theorem reference_of_absent {id : Text} (hpointed : w.store.pointed = .ok (.text id))
    (hget : w.store.get id = .error (.ledger (.absent id))) :
    (reference .baseline w).1 = .error (.ledger (.absent id)) := by
  have hbaseline : w.store.baseline = .error (.ledger (.absent id)) := by
    rw [Directory.baseline, hpointed]
    exact hget
  rw [reference, Act.bind_eq_of_ok (Act.attempt_eq_of_error (Act.ask_eq hbaseline))]
  rfl

/-- While the pointer stays it does not name a record that has been captured since. -/
theorem Captured.pointed_ne {ref : Option ProofRecord}
    (h : Captured p t i label testName w r d) (hread : (reference .baseline w).1 = .ok ref)
    (hpointer : d'.pointer = d.pointer) (hsite : d'.site = d.site) :
    d'.pointed ≠ .ok (.text r.id.val) := by
  intro hpointed
  rw [pointed_congr (hsite.trans h.stores.site) (hpointer.trans h.stores.pointer)] at hpointed
  rw [reference_of_absent hpointed h.stores.get_before] at hread
  cases hread

/-- Only a change of the hash keeps a record from becoming the baseline. -/
theorem verdict_of_hindrance {c : Option ComparisonReport}
    (h : (hindrance? c accept).isSome = true) :
    c.map ComparisonReport.verdict = some .hashMismatch := by
  obtain ⟨report, hreport⟩ := Option.isSome_iff_exists.mp h
  obtain ⟨rfl, hverdict⟩ := Option.filter_eq_some_iff.mp hreport
  exact congrArg some (beq_iff_eq.mp (Bool.and_eq_true_iff.mp hverdict).1)

/-- A run that a failure has stopped leaves the pointer when the pointer stays and names no record
of its own. -/
theorem leaves_of_stopped {run : Run} {f : Failure} (hpointer : d'.pointer = d.pointer)
    (hother : ∀ r, run.record = some r → d'.pointed ≠ .ok (.text r.id.val)) :
    Leaves (stopped run f) d d' where
  pointer := hpointer
  other r hr := hother r (record_stopped run f ▸ hr)
  refused hraised := absurd hraised (Option.isSome_iff_ne_none.mp (raised_stopped run f))

theorem Ending.adopts_or_leaves {o : Outcome}
    (h : Ending p t i label testName .baseline accept w o d)
    (hread : ∀ r, o.run.record = some r → ∃ ref, (reference .baseline w).1 = .ok ref) :
    (∃ r, Adopts o d r) ∨ Leaves o w.store d := by
  -- in all ways to end but one the pointer stays, and a record that was captured is another one
  have hother : ∀ {r : ProofRecord} {d d' : Directory}, Captured p t i label testName w r d →
      o.run.record = some r → d'.pointer = d.pointer → d'.site = d.site →
      ∀ x, some r = some x → d'.pointed ≠ .ok (.text x.id.val) := by
    rintro r d d' captured hrecord hpointer hsite _ ⟨⟩
    obtain ⟨ref, hread⟩ := hread r hrecord
    exact captured.pointed_ne hread hpointer hsite
  cases h with
  | unread cause => exact .inr (leaves_of_stopped rfl nofun)
  | uncaptured cause files => exact .inr (leaves_of_stopped files.pointer nofun)
  | unverified captured cause =>
    exact .inr (leaves_of_stopped captured.stores.pointer
      (hother captured (record_stopped _ _) rfl rfl))
  | uncompared captured cause =>
    exact .inr (leaves_of_stopped captured.stores.pointer
      (hother captured (record_stopped _ _) rfl rfl))
  | unpromoted captured cause files =>
    exact .inr (leaves_of_stopped (files.pointer.trans captured.stores.pointer)
      (hother captured (record_stopped _ _) files.pointer files.site))
  | kept captured compared stays =>
    exact .inr ⟨captured.stores.pointer, hother captured rfl rfl rfl,
      fun _ => ⟨rfl, verdict_of_hindrance (stays.resolve_left nofun)⟩⟩
  | @promoted _ r _ _ _ _ captured compared moves promotes =>
    obtain ⟨w₁, hmade⟩ := captured.made
    have hpointed := promotes.pointed (Capture.record_exact _ _ _ _ _ _ _ _ hmade)
    obtain ⟨content, hcontent, -⟩ := captured.stores.adds
    obtain ⟨text, htext, -⟩ := bind_eq_ok hcontent
    refine .inl ⟨r, rfl, rfl, rfl, rfl, rfl, compared.isSome_iff.mp, ⟨text, ?_⟩, hpointed, ?_⟩
    · exact mapError_eq_ok htext
    · rw [Directory.baseline, hpointed]
      exact promotes.get captured.stores.get

/-- A run does not change where the store lies. -/
theorem Ending.site {o : Outcome} (h : Ending p t i label testName slot accept w o d) :
    d.site = w.store.site := by
  cases h with
  | unread cause => rfl
  | uncaptured cause files => exact files.site
  | unverified captured cause => exact captured.stores.site
  | uncompared captured cause => exact captured.stores.site
  | unpromoted captured cause files => exact files.site.trans captured.stores.site
  | kept captured compared stays => exact captured.stores.site
  | promoted captured compared moves promotes => exact promotes.site.trans captured.stores.site

/-- A run that nothing has ended before its time has compared its record with its reference. -/
theorem Ending.compared {o : Outcome} (h : Ending p t i label testName slot accept w o d)
    (hraised : o.raised = none) : ∃ r ref v, Compared p slot w r ref v o.run.comparison := by
  cases h with
  | kept captured compared stays => exact ⟨_, _, _, compared⟩
  | promoted captured compared moves promotes => exact ⟨_, _, _, compared⟩
  | _ => exact absurd hraised (Option.isSome_iff_ne_none.mp (raised_stopped _ _))

/-- A run for the baseline has moved the pointer to its record, or it has left it. -/
theorem run_adopts_or_leaves (p : Pipeline) (t : Instruments) (i : ProveInput)
    (label testName : Data) (accept : Bool) (w : World) :
    (∃ r, Adopts (p.run t i label testName .baseline accept w).1
        (p.run t i label testName .baseline accept w).2.store r) ∨
      Leaves (p.run t i label testName .baseline accept w).1 w.store
        (p.run t i label testName .baseline accept w).2.store :=
  (run_ending p t i label testName .baseline accept w).adopts_or_leaves fun _ => exists_read

end Pipeline

end ProofLedger
