import ProofLedger.Proofs.Store.Refinement

/-!
# What a call may do

`Call.exists_tries`: on a store in order every call carries out a plan, and `Call.Tries` lists the
plans there are. What is said of all calls is proved by going through that list, and the steps of
the plan are those that the journal shows.
-/

namespace ProofLedger.Call

open Directory

/-- The plans that a call may carry out on a directory. -/
inductive Tries (d : Directory) : Call → Plan (List Text) → Prop
  | refuse (c : Call) (f : Failure) : Tries d c (.refuse f)
  | put (r : ProofRecord) (slot : Slot) : Tries d (.put r slot) ((d.put r slot).returning [])
  | promote {id : Text} {r : ProofRecord} (found : d.get id = .ok r) :
      Tries d (.promote (.text id)) ((d.putBaseline r).returning [])
  | prune (now : Option Moment) (age : Int) (keepBaseline : Bool) (cutoff : Moment) :
      Tries d (.prune now age keepBaseline) (d.pruneBefore cutoff keepBaseline)

/-- Every call carries out one of its plans. -/
theorem exists_tries (t : Instruments) {l : List ProofRecord} {w : World} (h : Kept l w)
    (c : Call) : ∃ p w', Act.Carries (c.perform t) p w w' ∧ c.Tries w.store p := by
  cases c with
  | put r slot =>
    obtain ⟨w', hput⟩ := Act.carries_storing h.inOrder (h.represents.isFolder lockName) slot
      fun s d => d.put r s
    exact ⟨_, w', hput.returning [], .put r slot⟩
  | promote id =>
    cases hget : w.store.getNamed id with
    | error f =>
      have hask : Act.promote id w = (.error f, w) := Act.bind_eq_of_error (Act.ask_eq hget)
      exact ⟨_, w, Act.carries_refuse (Act.bind_eq_of_error hask) rfl rfl rfl, .refuse _ f⟩
    | ok r =>
      obtain ⟨name, hname, hfound⟩ := bind_eq_ok hget
      obtain rfl : id = .text name := by
        cases id <;> cases hname
        rfl
      obtain ⟨w', hput⟩ := Act.carries_storing h.inOrder (h.represents.isFolder lockName) .baseline
        fun _ d => d.putBaseline r
      have hstored := hput.returning r
      have hpromote : Act.Carries (Act.promote (.text name)) _ w w' :=
        ⟨(Act.bind_eq_of_ok (Act.ask_eq hget)).trans hstored.run, hstored.store,
          hstored.storeFault, hstored.journal⟩
      have hperform := hpromote.returning ([] : List Text)
      rw [Plan.returning_returning] at hperform
      exact ⟨_, w', hperform, .promote hfound⟩
  | prune now age keepBaseline =>
    rcases prune_cases t now age keepBaseline w with ⟨f, w', hrun, hstore, hfault, hjournal⟩ |
      ⟨cutoff, w', hprune⟩
    · exact ⟨_, w', Act.carries_refuse hrun hstore hfault hjournal, .refuse _ f⟩
    · exact ⟨_, w', hprune, .prune now age keepBaseline cutoff⟩

/-- A record is stored and becomes the baseline. -/
def settling : List Call := [.put .sample .history, .promote (.text "main-1")]

theorem exact_settling : ∀ c ∈ settling, c.Exact := by
  intro c hc
  simp only [settling, List.mem_cons, List.not_mem_nil, or_false] at hc
  rcases hc with rfl | rfl
  · exact named_sample.exact
  · trivial

end ProofLedger.Call
