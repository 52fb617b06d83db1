import ProofLedger.Proofs.CommandLine.Reporting
import ProofLedger.Proofs.Comparison.Reportable

/-!
# What is printed of a comparison

The command that compares and the ones that capture print one line when there is a document of
their report, and nothing when there is none; then they end with the status of a failure, after
whatever they have done to the store (`answered`). For records that can be stored
`compare_reported` says which comparisons these are.
-/

namespace ProofLedger.CommandLine

open Act

variable {t : Instruments} {m : Manner} {c : Config} {w w₀ w₁ : World}

/-- A command ends with a status, and all that it has done since some earlier world is to print a
text and to speak. -/
def Prints (a : Act Nat) (w since : World) (printed : Text) (status : Nat) : Prop :=
  ∃ w', a w = (.ok status, w') ∧ w'.output = since.output ++ printed ∧ w'.store = since.store

/-- A run that came to its end with a comparison, and with nothing else in its report that has no
numeral. -/
structure Compared (o : Pipeline.Outcome) (r : ComparisonReport) : Prop where
  raised : o.raised = none
  failure : o.run.failure = none
  record : ∀ x ∈ o.run.record, ∃ text, x.dumps = .ok text
  verification : ∀ v ∈ o.run.verification, v.duration.isFinite = true ∧
    Number.fits v.objectCount = true
  comparison : o.run.comparison = some r

theorem Compared.printable_iff {o : Pipeline.Outcome} {r : ComparisonReport} (h : Compared o r) :
    o.run.toData.Printable ↔ r.toData.Printable := by
  rw [Run.printable_iff (fun x hx => ProofRecord.printable_of_dumps (h.record x hx)) h.failure,
    r.printable_iff]
  constructor
  · exact fun hrun => hrun.comparison r h.comparison
  · intro hr
    refine ⟨h.verification, fun x hx => ?_⟩
    rw [h.comparison] at hx
    cases hx
    exact hr

/-! ## Printing a report -/

section Emit

variable {name : Text} {payload : Data} {page : Option Text}

theorem emit_of_line (hdir : m.options.outputDirectory = none) {line : Text}
    (h : lineOf payload = .ok line) :
    m.emit name payload page w = (.ok (), { w with output := w.output ++ line }) := by
  rw [emit_eq hdir, h]
  rfl

/-- Without a document nothing is printed, and nothing is written to a folder either. -/
theorem emit_of_unprintable (h : ¬ payload.Printable) :
    ∃ f : Fault, m.emit name payload page w = (.error (.fault f), w) := by
  have hline : ∃ f : Fault, lineOf payload = .error (.fault f) := by
    rw [← lineOf_eq_ok_iff] at h
    unfold lineOf at h ⊢
    cases hdata : payload.toJson with
    | error f => exact ⟨_, rfl⟩
    | ok j =>
      rw [hdata] at h
      exact absurd ⟨_, rfl⟩ h
  obtain ⟨f, hf⟩ := hline
  refine ⟨f, ?_⟩
  rw [Manner.emit, hf]
  exact bind_eq_of_error rfl

/-- Words do not get in between what is printed. -/
theorem exists_say (m : Manner) (lines : List Text) (w : World) :
    ∃ w', m.say lines w = (.ok (), w') ∧ w'.output = w.output ∧ w'.store = w.store := by
  unfold Manner.say
  split
  · exact ⟨w, rfl, rfl, rfl⟩
  · exact ⟨_, rfl, rfl, rfl⟩

end Emit

/-- A command that reports and says something, once it has its report, and otherwise fails. -/
def telling (m : Manner) (name : Text) (payload : Data) (page : Option Text) (lines : List Text)
    (status : Nat) : Act Nat := do
  m.emit name payload page
  m.say lines
  pure status

section Telling

variable {name : Text} {payload : Data} {page : Option Text} {lines : List Text} {status : Nat}

theorem prints_of_printable {a : Act Nat} (hdir : m.options.outputDirectory = none)
    (ha : a w = telling m name payload page lines status w₀) (hprintable : payload.Printable) :
    ∃ line, lineOf payload = .ok line ∧ Prints (concluding a) w w₀ line status := by
  obtain ⟨line, h⟩ := lineOf_eq_ok_iff.mpr hprintable
  obtain ⟨w', hsay, houtput, hstore⟩ := exists_say m lines { w₀ with output := w₀.output ++ line }
  have hrun : a w = (.ok status, w') := by
    rw [ha, telling, bind_eq_of_ok (emit_of_line hdir h), bind_eq_of_ok hsay]
    rfl
  exact ⟨line, h, w', bind_eq_of_ok (attempt_eq_of_ok hrun), houtput, hstore⟩

theorem prints_of_unprintable {a : Act Nat}
    (ha : a w = telling m name payload page lines status w₀) (h : ¬ payload.Printable) :
    Prints (concluding a) w w₀ [] 1 := by
  obtain ⟨f, hemit⟩ : ∃ f, m.emit name payload page w₀ = (.error (.fault f), w₀) :=
    emit_of_unprintable h
  have hrun : a w = (.error (.fault f), w₀) := by
    rw [ha, telling, bind_eq_of_error hemit]
  refine ⟨_, bind_eq_of_ok (attempt_eq_of_error hrun), ?_, ?_⟩
  · exact (List.append_nil _).symm
  · rfl

end Telling

/-! ## The commands -/

/-- What the commands do once a comparison has come to its report: where it can be printed they
print one line for theirs, and otherwise they fail without having printed anything. -/
structure Answered (r : ComparisonReport) : Prop where
  compare (t : Instruments) (m : Manner) (c : Config) (b d : Option Text) (w w₀ : World)
    (found : Workflow.compare c (nameOrNull b) (nameOrNull d) w = (.ok r, w₀)) :
    (m.options.outputDirectory = none → r.toData.Printable → ∃ line, lineOf r.toData = .ok line ∧
      Prints (execute t m c (.compare b d)) w w₀ line (comparisonStatus c (some r))) ∧
    (¬ r.toData.Printable → Prints (execute t m c (.compare b d)) w w₀ [] 1)
  /-- Capturing for the baseline or for the history. -/
  capture (t : Instruments) (m : Manner) (c : Config) (command : Command) (slot : Slot)
    (label : Given Text) (accept : Bool) (o : Pipeline.Outcome) (w w₀ : World)
    (captures : perform t m c command = capture t m c command.name slot label accept)
    (ran : Workflow.run t c none (label.toData .text) (.text c.testName) slot accept w =
      (.ok o, w₀))
    (compared : Compared o r) :
    (m.options.outputDirectory = none → r.toData.Printable →
      ∃ line, lineOf o.run.toData = .ok line ∧
        Prints (execute t m c command) w w₀ line (captureStatus c o.run)) ∧
    (¬ r.toData.Printable → Prints (execute t m c command) w w₀ [] 1)

theorem answered (r : ComparisonReport) : Answered r where
  compare t m c b d w w₀ found := by
    have hrun : CommandLine.compare m c b d w = telling m "compare" r.toData
        (some (Report.comparison r)) (compareLines r) (comparisonStatus c (some r)) w₀ :=
      bind_eq_of_ok found
    exact ⟨fun hdir => prints_of_printable hdir hrun, prints_of_unprintable hrun⟩
  capture t m c command slot label accept o w w₀ captures ran compared := by
    have hrun : perform t m c command w = telling m command.name o.run.toData (pageOf o)
        (captureLines o.run) (captureStatus c o.run) w₀ := by
      rw [captures, CommandLine.capture, bind_eq_of_ok ran, reportRun_of_done compared.raised]
      rfl
    rw [← compared.printable_iff]
    exact ⟨fun hdir => prints_of_printable hdir hrun, prints_of_unprintable hrun⟩

/-- The comparison of two records that can be stored, under a positive and finite threshold: there
is a document of its report exactly when the change in percent is not past every double, as where
the candidate takes up to the greatest quotient times as long as the baseline. The change is an
infinite increase otherwise. The commands print the report where there is a document of it. -/
theorem compare_reported {b d : ProofRecord} {threshold : Threshold}
    (hb : ∃ text, b.dumps = .ok text) (hd : ∃ text, d.dumps = .ok text)
    (hpositive : Quantity.zero.lt threshold.value = true)
    (hfinite : threshold.value.toDouble.isFinite = true) :
    ∃ r, ProofLedger.compare b d threshold = .ok r ∧
      (r.toData.Printable ↔ Reportable b.duration.val d.duration.val) ∧
      (d.duration.val.signedUnits * Double.unitsPerOne ≤
        Double.greatestQuotient.signedUnits * b.duration.val.signedUnits → r.toData.Printable) ∧
      (¬ r.toData.Printable → r.percent = some (.infinity false)) ∧ Answered r := by
  obtain ⟨hbaseline, -⟩ := b.exists_dumps_iff.mp hb
  obtain ⟨hcandidate, -⟩ := d.exists_dumps_iff.mp hd
  obtain ⟨r, hr⟩ := exists_compare b d hpositive hfinite
  have hiff := printable_iff_reportable hr hbaseline hcandidate hfinite
  refine ⟨r, hr, hiff, ?_, ?_, answered r⟩
  · intro hle
    exact hiff.mpr (reportable_of_le hbaseline hcandidate hle)
  · intro hunprintable
    exact percent_of_not_reportable hr hbaseline hcandidate (mt hiff.mpr hunprintable)

/-- Twice the time can be reported. -/
theorem compare_reported_doubled :
    let b := ProofRecord.sample.lasting (.ofNat 4)
    let d := ProofRecord.sample.lasting (.ofNat 8)
    ∃ r, ProofLedger.compare b d .default = .ok r ∧ r.toData.Printable ∧ Answered r := by
  intro b d
  have hfits : Number.fits ProofRecord.sample.input.length = true :=
    ProofRecord.fits_of_lt (by decide)
  obtain ⟨r, hr, -, hle, -, hanswered⟩ := @compare_reported b d .default
    (b.exists_dumps_iff.mpr ⟨by decide +kernel, hfits⟩)
    (d.exists_dumps_iff.mpr ⟨by decide +kernel, hfits⟩) (by decide +kernel) (by decide +kernel)
  exact ⟨r, hr, hle (by decide +kernel), hanswered⟩

/-- From the least positive duration to 1e308 seconds there is no percentage that could be printed,
though both records can be stored. -/
theorem unprintable_comparison :
    let b := ProofRecord.sample.lasting (.ofRank 1)
    let d := ProofRecord.sample.lasting (.ofRank 9214871658872686752)
    (∃ text, b.dumps = .ok text) ∧ (∃ text, d.dumps = .ok text) ∧
      ∃ r, ProofLedger.compare b d .default = .ok r ∧ r.percent = some (.infinity false) ∧
        ¬ r.toData.Printable := by
  intro b d
  have hfits : Number.fits ProofRecord.sample.input.length = true :=
    ProofRecord.fits_of_lt (by decide)
  obtain ⟨r, hr⟩ := exists_compare (t := .default) b d (by decide +kernel) (by decide +kernel)
  have hpercent : r.percent = some (.infinity false) := by
    rw [eq_of_compare hr]
    decide +kernel
  refine ⟨b.exists_dumps_iff.mpr ⟨by decide +kernel, hfits⟩,
    d.exists_dumps_iff.mpr ⟨by decide +kernel, hfits⟩, r, hr, hpercent, ?_⟩
  rw [r.printable_iff]
  intro hfinite
  cases hfinite.percent _ hpercent

end ProofLedger.CommandLine
