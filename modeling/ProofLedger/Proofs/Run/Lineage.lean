import ProofLedger.Proofs.Run.Account
import ProofLedger.Proofs.Run.Derived

/-!
# Where baselines come from

A store that was empty lives through events (`Event`): runs of any pipelines, with any provers
and oracles, and prunes that keep the baseline. `baseline_lineage` says of the whole history
that every baseline was captured and found valid by a run for the baseline, that a baseline is
never unset and changes its hash only where that was accepted beforehand, and that a run says
truly whether it has moved the pointer.

`Event.sound` is what one event keeps, read off the ways a run can end; `passages_sound` is
the induction. Between the events the store holds a ledger, which is what makes its answers
known. Prunes that drop the baseline are left out.
-/

namespace ProofLedger

open Directory

/-! ## What the ends of a run make of a ledger -/

namespace Directory

variable {d d' : Directory} {l : List ProofRecord} {r : ProofRecord}

/-- A record of the ledger that becomes the baseline was not the baseline. -/
theorem Represents.promoted (h : Represents d l) (hr : r ∈ l) (hd : Promotes r d d') :
    Represents d' l ∧ d'.pointer ≠ d.pointer ∧ d'.baseline = .ok r := by
  have hexact : Identity.IsExact r.id.val := (h.named r hr).exact
  have hledger : Represents d' (including l r) := h.promotes hexact hd
  rw [including, if_pos hr] at hledger
  have hpointed : d'.pointed = .ok (.text r.id.val) :=
    pointed_eq (hledger.check pointerName) hexact hd.pointer
  refine ⟨hledger, fun hsame => ?_, ?_⟩
  · obtain ⟨current, hcurrent, hother⟩ := hd.other
    rw [hd.pointer] at hsame
    have hbefore := pointed_eq (h.check pointerName) hexact hsame.symm
    rw [hcurrent] at hbefore
    exact hother (Except.ok.inj hbefore)
  · rw [baseline, hpointed]
    exact hledger.get_of_mem hr

end Directory

/-! ## Comparing hashes -/

/-- A comparison that finds no change of the hash has seen equal hashes. -/
theorem proofHash_eq_of_compare {b r : ProofRecord} {threshold : Threshold}
    {report : ComparisonReport} (h : compare b r threshold = .ok report)
    (hverdict : report.verdict ≠ .hashMismatch) : b.proofHash = r.proofHash := by
  obtain ⟨q, -, rfl⟩ := map_eq_ok h
  cases hhash : b.proofHash.val == r.proofHash.val with
  | true => exact Subtype.ext (beq_iff_eq.mp hhash)
  | false =>
    refine absurd ?_ hverdict
    simp only [ComparisonReport.of, hhash, verdictOf]
    rfl

/-- A run for the baseline compares its record with the baseline, if there is one. -/
theorem Pipeline.Compared.exists_report {p : Pipeline} {w : World} {b r : ProofRecord}
    {reference : Option ProofRecord} {v : VerificationResult} {c : Option ComparisonReport}
    (h : Compared p .baseline w r reference v c) (hb : w.store.baseline = .ok b) :
    ∃ report, compare b r p.threshold = .ok report ∧ c = some report := by
  have hread := h.read
  have hask := Act.attempt_eq_of_ok (Act.ask_eq hb)
  rw [Pipeline.reference, Act.bind_eq_of_ok hask] at hread
  cases hread
  have hreport := h.report
  rw [Option.mapM_some] at hreport
  obtain ⟨report, hcompare, rfl⟩ := map_eq_ok hreport
  exact ⟨report, hcompare, rfl⟩

/-- A run for the baseline that moves the pointer without leave keeps the hash. -/
theorem Pipeline.Compared.hash_eq {p : Pipeline} {w : World} {b r : ProofRecord}
    {reference : Option ProofRecord} {v : VerificationResult} {c : Option ComparisonReport}
    (h : Compared p .baseline w r reference v c) (hb : w.store.baseline = .ok b)
    (hmoves : hindrance? c false = none) : r.proofHash = b.proofHash := by
  obtain ⟨report, hcompare, rfl⟩ := h.exists_report hb
  refine (proofHash_eq_of_compare hcompare fun hverdict => ?_).symm
  simp [hindrance?, hverdict] at hmoves

/-! ## Events -/

/-- An event in the life of a store: a run of some pipeline, or a prune that keeps the
baseline. -/
inductive Event where
  | run (p : Pipeline) (t : Instruments) (i : ProveInput) (label testName : Data) (slot : Slot)
      (accept : Bool)
  | prune (t : Instruments) (now : Option Moment) (age : Int)

namespace Event

/-- The slot of a run. -/
def slot? : Event → Option Slot
  | .run _ _ _ _ _ slot _ => some slot
  | .prune .. => none

/-- Whether a change of the hash was accepted beforehand. -/
def accepts : Event → Bool
  | .run _ _ _ _ _ _ accept => accept
  | .prune .. => false

/-- What an event does; only a run has an outcome. -/
def perform : Event → World → Option Pipeline.Outcome × World
  | .run p t i label testName slot accept, w =>
    let (o, w') := p.run t i label testName slot accept w
    (some o, w')
  | .prune t now age, w => (none, (Call.perform t (.prune now age true) w).2)

end Event

/-- An event with what came of it, and the files of the store before and after it. -/
structure Passage where
  event : Event
  outcome : Option Pipeline.Outcome
  before : Directory
  after : Directory

/-- The events one after another. -/
def passages : List Event → World → List Passage
  | [], _ => []
  | e :: events, w =>
    let (o, w') := e.perform w
    ⟨e, o, w.store, w'.store⟩ :: passages events w'

namespace Passage

/-- A run for the baseline has captured the record and found it valid. -/
def Vouches (p : Passage) (r : ProofRecord) : Prop :=
  p.event.slot? = some .baseline ∧ ∃ o v, p.outcome = some o ∧ o.run.record = some r ∧
    o.run.verification = some v ∧ Verification.About r v ∧ v.isValid = true

/-- What holds of one event: `stays`, `steady` and `moved` are about the baseline before and
after it, `vouched` is about a baseline that was not there before. -/
structure Sound (p : Passage) : Prop where
  /-- A baseline is not unset, and its hash stays unless a change was accepted. -/
  stays : ∀ b, p.before.baseline = .ok b →
    ∃ b', p.after.baseline = .ok b' ∧ (b'.proofHash = b.proofHash ∨ p.event.accepts = true)
  /-- Only a run for the baseline changes which record is the baseline. -/
  steady : p.event.slot? ≠ some .baseline → p.after.baseline = p.before.baseline
  /-- A run says that it has promoted its record exactly when it has moved the pointer. -/
  moved : ∀ o, p.outcome = some o →
    (o.run.baselinePromoted = true ↔ p.after.pointer ≠ p.before.pointer) ∧
      (o.run.baselinePromoted = true →
        ∃ r, o.run.record = some r ∧ p.after.baseline = .ok r)
  vouched : ∀ b, p.after.baseline = .ok b → p.before.baseline = .ok b ∨ p.Vouches b

/-- An event that leaves the pointer and says so. -/
theorem sound_of_same {p : Passage} (hbaseline : p.after.baseline = p.before.baseline)
    (hpointer : p.after.pointer = p.before.pointer)
    (houtcome : ∀ o, p.outcome = some o → o.run.baselinePromoted = false) : p.Sound where
  stays b hb := ⟨b, hbaseline.trans hb, .inl rfl⟩
  steady _ := hbaseline
  moved o ho := by
    rw [houtcome o ho]
    exact ⟨⟨nofun, fun h => absurd hpointer h⟩, nofun⟩
  vouched b hb := .inl (hbaseline ▸ hb)

/-- A run for the baseline that makes its record the baseline and says so. -/
theorem sound_of_moved {p : Passage} {o : Pipeline.Outcome} {r : ProofRecord}
    (hslot : p.event.slot? = some .baseline) (houtcome : p.outcome = some o)
    (hpromoted : o.run.baselinePromoted = true) (hrecord : o.run.record = some r)
    (hpointer : p.after.pointer ≠ p.before.pointer) (hbaseline : p.after.baseline = .ok r)
    (hhash : ∀ b, p.before.baseline = .ok b →
      r.proofHash = b.proofHash ∨ p.event.accepts = true)
    (hvouches : p.Vouches r) : p.Sound where
  stays b hb := ⟨r, hbaseline, hhash b hb⟩
  steady hother := absurd hslot hother
  moved o' ho' := by
    rw [houtcome] at ho'
    cases ho'
    exact ⟨⟨fun _ => hpointer, fun _ => hpromoted⟩, fun _ => ⟨r, hrecord, hbaseline⟩⟩
  vouched b hb := by
    rw [hbaseline] at hb
    cases hb
    exact .inr hvouches

end Passage

/-! ## What one event keeps -/

/-- What a run makes of a ledger, and what it says of itself. -/
theorem Pipeline.Ending.sound {p : Pipeline} {t : Instruments} {i : ProveInput}
    {label testName : Data} {slot : Slot} {accept : Bool} {w : World} {o : Outcome}
    {d : Directory} {l : List ProofRecord} (h : Ending p t i label testName slot accept w o d)
    (hl : Represents w.store l) :
    (∃ l', Represents d l') ∧
      Passage.Sound ⟨.run p t i label testName slot accept, some o, w.store, d⟩ := by
  have hcaptured : ∀ {r d₁}, Captured p t i label testName w r d₁ → Represents d₁ (l ++ [r]) := by
    intro r d₁ hcaptured
    obtain ⟨w₁, hmade⟩ := hcaptured.made
    exact hl.stores (Capture.record_exact _ _ _ _ _ _ _ _ hmade) hcaptured.stores
  -- In all ways to end but one the ledger only grows and the pointer stays.
  have hsame : ∀ {o d l'}, Represents d l' → l ⊆ l' → d.pointer = w.store.pointer →
      o.run.baselinePromoted = false →
      (∃ l', Represents d l') ∧
        Passage.Sound ⟨.run p t i label testName slot accept, some o, w.store, d⟩ := by
    intro o d l' hd hsub hpointer hpromoted
    refine ⟨⟨l', hd⟩, Passage.sound_of_same (hl.baseline_congr hd hpointer (.inl hsub)) hpointer ?_⟩
    intro o' ho'
    cases ho'
    exact hpromoted
  have hgrows : ∀ r, l ⊆ l ++ [r] := fun r => List.subset_append_left l [r]
  cases h with
  | unread cause => exact hsame hl (List.Subset.refl l) rfl (baselinePromoted_stopped _ _)
  | uncaptured cause files =>
    have hledger := hl.keeps (hl.keeps_of_unmoved files)
    exact hsame hledger (List.Subset.refl l) files.pointer (baselinePromoted_stopped _ _)
  | unverified captured cause =>
    exact hsame (hcaptured captured) (hgrows _) captured.stores.pointer
      (baselinePromoted_stopped _ _)
  | uncompared captured cause =>
    exact hsame (hcaptured captured) (hgrows _) captured.stores.pointer
      (baselinePromoted_stopped _ _)
  | unpromoted captured cause files =>
    have hledger := hcaptured captured
    exact hsame (hledger.keeps (hledger.keeps_of_unmoved files)) (hgrows _)
      (files.pointer.trans captured.stores.pointer) (baselinePromoted_stopped _ _)
  | kept captured compared stays =>
    exact hsame (hcaptured captured) (hgrows _) captured.stores.pointer rfl
  | promoted captured compared moves promotes =>
    rename_i reference r v c d₁
    obtain ⟨rfl, hmoves⟩ := moves
    have hmem : r ∈ l ++ [r] := List.mem_append_right l List.mem_cons_self
    obtain ⟨hledger, hpointer, hbaseline⟩ := (hcaptured captured).promoted hmem promotes
    rw [captured.stores.pointer] at hpointer
    refine ⟨⟨_, hledger⟩, Passage.sound_of_moved rfl rfl rfl rfl hpointer hbaseline ?_ ?_⟩
    · intro b hb
      cases accept with
      | true => exact .inr rfl
      | false => exact .inl (compared.hash_eq hb hmoves)
    · exact ⟨rfl, _, v, rfl, rfl, rfl, compared.about, compared.valid⟩

/-- What one event keeps, whatever it is. -/
theorem Event.sound (e : Event) {w : World} {l : List ProofRecord} (hl : Represents w.store l) :
    (∃ l', Represents (e.perform w).2.store l') ∧
      Passage.Sound ⟨e, (e.perform w).1, w.store, (e.perform w).2.store⟩ := by
  cases e with
  | run p t i label testName slot accept =>
    exact (Pipeline.run_ending p t i label testName slot accept w).sound hl
  | prune t now age =>
    have hledger : ∃ l', Represents (perform (.prune t now age) w).2.store l' ∧ l' ⊆ l ∧
        (perform (.prune t now age) w).2.store.pointer = w.store.pointer := by
      rcases Call.prune_cases t now age true w with ⟨f, w', hrun, hstore, -⟩ | ⟨cutoff, w', hprune⟩
      · rw [perform, hrun, hstore]
        exact ⟨l, hl, List.Subset.refl l, rfl⟩
      · rw [perform, hprune.run, hprune.store]
        rcases hl.pruneBefore cutoff true with ⟨deleted, -, hrest, hpointer⟩ | ⟨f, -, hkeeps⟩
        · exact ⟨_, hrest, List.filter_sublist.subset, hpointer rfl⟩
        · exact ⟨l, hl.keeps hkeeps, List.Subset.refl l, hkeeps.pointer⟩
    obtain ⟨l', hl', hsub, hpointer⟩ := hledger
    refine ⟨⟨l', hl'⟩, ?_⟩
    refine Passage.sound_of_same (hl.baseline_congr hl' hpointer (.inr hsub)) hpointer ?_
    intro o ho
    cases ho

/-! ## What any events keep -/

/-- A history of a store: every event is sound, and every baseline was vouched for by the time
it was one. -/
structure Lineage (ps : List Passage) : Prop where
  sound : ∀ p ∈ ps, p.Sound
  vouched : ∀ earlier p later, ps = earlier ++ p :: later →
    ∀ b, p.after.baseline = .ok b → ∃ q ∈ earlier ++ [p], q.Vouches b

/-- The induction on the events; `seen` are those that went before. -/
theorem passages_sound (events : List Event) {w : World} {l : List ProofRecord}
    (hl : Represents w.store l) (seen : List Passage)
    (hseen : ∀ b, w.store.baseline = .ok b → ∃ q ∈ seen, q.Vouches b) :
    (∀ p ∈ passages events w, p.Sound) ∧
      ∀ earlier p later, passages events w = earlier ++ p :: later →
        ∀ b, p.after.baseline = .ok b → ∃ q ∈ seen ++ (earlier ++ [p]), q.Vouches b := by
  induction events generalizing w l seen with
  | nil =>
    refine ⟨fun p hp => absurd hp List.not_mem_nil, fun earlier p later hsplit => ?_⟩
    cases earlier with
    | nil => cases hsplit
    | cons q earlier => cases hsplit
  | cons e events ih =>
    obtain ⟨⟨l', hl'⟩, hsound⟩ := e.sound hl
    let first : Passage := ⟨e, (e.perform w).1, w.store, (e.perform w).2.store⟩
    have hfirst : ∀ b, first.after.baseline = .ok b → ∃ q ∈ seen ++ [first], q.Vouches b := by
      intro b hb
      rcases hsound.vouched b hb with hbefore | hvouches
      · obtain ⟨q, hq, hvouches⟩ := hseen b hbefore
        exact ⟨q, List.mem_append_left _ hq, hvouches⟩
      · exact ⟨first, List.mem_append_right _ List.mem_cons_self, hvouches⟩
    obtain ⟨hrest, hvouched⟩ := ih hl' (seen ++ [first]) hfirst
    have hpassages : passages (e :: events) w = first :: passages events (e.perform w).2 := rfl
    rw [hpassages]
    refine ⟨fun p hp => ?_, fun earlier p later hsplit b hb => ?_⟩
    · rcases List.mem_cons.mp hp with rfl | hp
      · exact hsound
      · exact hrest p hp
    · cases earlier with
      | nil =>
        cases hsplit
        exact hfirst b hb
      | cons q earlier =>
        obtain ⟨rfl, htail⟩ := List.cons.inj hsplit
        obtain ⟨x, hx, hvouches⟩ := hvouched earlier p later htail b hb
        refine ⟨x, ?_, hvouches⟩
        rwa [List.append_assoc] at hx

/-- Every baseline of a store that was empty comes from a run for the baseline that found it
valid; it is not unset, and its hash changes only where that was accepted. -/
theorem baseline_lineage {root : Text} {w : World} (hempty : w.store = .empty (.clear root))
    (events : List Event) : Lineage (passages events w) := by
  have hl : Represents w.store [] := hempty ▸ represents_empty root
  have hnone : ∀ b, w.store.baseline = .ok b → ∃ q ∈ ([] : List Passage), q.Vouches b := by
    intro b hb
    rcases hl.baseline_cases with ⟨-, hbaseline⟩ | ⟨r, hr, -⟩
    · rw [hbaseline] at hb
      cases hb
    · cases hr
  obtain ⟨hsound, hvouched⟩ := passages_sound events hl [] hnone
  exact ⟨hsound, hvouched⟩

/-- A first baseline, a candidate, a prune of everything but the baseline, and a second baseline
for which a change of the hash is accepted. -/
theorem baseline_lineage_sample :
    let p : Pipeline := ⟨Pipeline.steady, Pipeline.agreeing, .default⟩
    let input := ProofRecord.sample.input
    let events : List Event :=
      [.run p still input (.text "main") (.text []) .baseline false,
        .run p still input (.text "candidate") (.text []) .history false,
        .prune still none (-1),
        .run p still input (.text "main") (.text []) .baseline true]
    let w := World.of (.empty (.clear "store"))
    w.store = .empty (.clear "store") ∧ Lineage (passages events w) := by
  intro p input events w
  exact ⟨rfl, baseline_lineage rfl events⟩

end ProofLedger
