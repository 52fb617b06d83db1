import ProofLedger.Proofs.Reference.Capturing
import ProofLedger.Proofs.Store.LedgerPut
import ProofLedger.Proofs.Store.Newest

/-!
# Stores of the reference prover

`Tended` is what a run with the reference prover and oracle keeps of a store that was empty. From
it the name of the next record is new (`Tended.fresh`), and the last record is the newest
(`Tended.latest_history`). `Genuine.hash_eq` is why such a run never sees a change of the hash
where the input is that of the baseline.
-/

namespace ProofLedger.Reference

open Directory

variable {i : ProveInput} {label : Text} {u : Moment} {l : List ProofRecord}

/-- A store that runs with the reference prover have filled: its records are genuine, each named
for its time and made after the one before it, and one of them is the baseline. -/
structure Tended (d : Directory) (l : List ProofRecord) : Prop where
  ledger : Represents d l
  genuine : ∀ r ∈ l, Genuine r
  utc : ∀ r ∈ l, r.createdAt.offset = some 0
  named : ∀ r ∈ l, ∃ label, r.id.val = Identity.slug label ++ 45 :: r.createdAt.stampText
  ascends : l.Pairwise fun a b => a.createdAt.instant < b.createdAt.instant
  based : l ≠ [] → ∃ b, d.baseline = .ok b

theorem tended_empty (root : Text) : Tended (.empty (.clear root)) [] where
  ledger := represents_empty root
  genuine := nofun
  utc := nofun
  named := nofun
  ascends := .nil
  based h := absurd rfl h

/-- The baseline is one of the records. -/
theorem Tended.baseline_mem {d : Directory} {b : ProofRecord} (h : Tended d l)
    (hb : d.baseline = .ok b) : b ∈ l := by
  rcases h.ledger.baseline_cases with ⟨-, hnone⟩ | ⟨r, hr, -, hbaseline⟩
  · rw [hnone] at hb
    cases hb
  · rw [hbaseline] at hb
    exact Except.ok.inj hb ▸ hr

/-- A later time makes a new name, whatever the labels. -/
theorem Tended.fresh {d : Directory} (h : Tended d l) (hu : u.offset = some 0)
    (hlater : ∀ r ∈ l, r.createdAt.instant < u.instant) (label : Text) :
    Identity.slug label ++ 45 :: u.stampText ∉ names l := by
  intro hmem
  obtain ⟨r, hr, hid⟩ := List.mem_map.mp hmem
  obtain ⟨label', hname⟩ := h.named r hr
  have hwall : r.createdAt.wall = u.wall := Identity.derive_inj (hname ▸ hid)
  have hinstant := hlater r hr
  simp only [Moment.instant, h.utc r hr, hu, hwall] at hinstant
  omega

/-- A new record goes to the end, while there is a baseline. -/
theorem Tended.grows {d d' : Directory} (h : Tended d l) {r : ProofRecord}
    (hmade : Made i label u r) (hu : u.offset = some 0)
    (hlater : ∀ x ∈ l, x.createdAt.instant < u.instant) (hledger : Represents d' (l ++ [r]))
    (hbased : ∃ b, d'.baseline = .ok b) : Tended d' (l ++ [r]) where
  ledger := hledger
  genuine x hx := by
    rcases List.mem_append.mp hx with hx | hx
    · exact h.genuine x hx
    · exact List.mem_singleton.mp hx ▸ hmade.genuine
  utc x hx := by
    rcases List.mem_append.mp hx with hx | hx
    · exact h.utc x hx
    · rw [List.mem_singleton.mp hx, hmade.createdAt, hu]
  named x hx := by
    rcases List.mem_append.mp hx with hx | hx
    · exact h.named x hx
    · rw [List.mem_singleton.mp hx, hmade.createdAt]
      exact ⟨label, hmade.named⟩
  ascends := by
    refine List.pairwise_append.mpr ⟨h.ascends, List.pairwise_singleton _ _, fun x hx y hy => ?_⟩
    rw [List.mem_singleton.mp hy, hmade.createdAt]
    exact hlater x hx
  based _ := hbased

/-- The history lists the records in their order. -/
theorem Tended.list_history {d : Directory} (h : Tended d l) :
    d.list .history = .ok ((names l).map .text) := by
  rw [Directory.list, h.ledger.history]
  rfl

/-- The newest record is the last one. -/
theorem Tended.latest_history {d : Directory} {r : ProofRecord} (h : Tended d (l ++ [r])) :
    d.latest .history = .ok r := by
  have hlater (x : ProofRecord) (hx : x ∈ l) : x.createdAt.instant < r.createdAt.instant :=
    (List.pairwise_append.mp h.ascends).2.2 x hx r (List.mem_singleton_self r)
  exact (h.ledger.latest_eq_ok_iff r).mpr
    ⟨l, [], rfl, fun x hx => Int.le_of_lt (hlater x hx), by simp⟩

/-- Genuine records of one input have one hash. -/
theorem Genuine.hash_eq {a b : ProofRecord} (ha : Genuine a) (hb : Genuine b)
    (hinput : a.input = b.input) : a.proofHash.val = b.proofHash.val := by
  have hobjects : a.objects = b.objects := by
    have h := ha.objects
    rw [hinput, hb.objects] at h
    exact (Except.ok.inj h).symm
  have h := ha.hash
  rw [hinput, hobjects, hb.hash] at h
  exact (Except.ok.inj h).symm

end ProofLedger.Reference
