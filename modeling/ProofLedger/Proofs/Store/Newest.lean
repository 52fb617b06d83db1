import ProofLedger.Proofs.Store.Refinement

/-!
# The newest record

`latest_is_newest`: after any calls to a store that was empty, the latest record is the newest of
the history. None that was stored before it was made later, and all that were stored after it were
made earlier (`IsNewest`); so of several made at one instant it is the one that was stored last.
What counts are instants, whatever the texts of the times look like.

`newest_eq_iff` is the same for a list of records. It comes from the induction along the list
(`isNewest_foldl`), where the record that is kept so far stands for all before it
(`IsNewest.append`), and from there being only one such record (`IsNewest.unique`). Where no two
instants are the same, the newest record is newest in every order (`IsNewest.perm`).
-/

namespace ProofLedger

namespace Directory

/-- No record before it was made later, and every record after it was made earlier. -/
def IsNewest (l : List ProofRecord) (r : ProofRecord) : Prop :=
  ∃ before after, l = before ++ r :: after ∧
    (∀ x ∈ before, x.createdAt.instant ≤ r.createdAt.instant) ∧
    ∀ x ∈ after, x.createdAt.instant < r.createdAt.instant

/-! ## Lists of records -/

theorem IsNewest.mem {l : List ProofRecord} {r : ProofRecord} (h : IsNewest l r) : r ∈ l := by
  obtain ⟨before, after, rfl, -⟩ := h
  exact List.mem_append_right _ List.mem_cons_self

theorem IsNewest.le {l : List ProofRecord} {r x : ProofRecord} (h : IsNewest l r) (hx : x ∈ l) :
    x.createdAt.instant ≤ r.createdAt.instant := by
  obtain ⟨before, after, rfl, hbefore, hafter⟩ := h
  rcases List.mem_append.mp hx with hx | hx
  · exact hbefore x hx
  · rcases List.mem_cons.mp hx with rfl | hx
    · exact Int.le_refl _
    · exact Int.le_of_lt (hafter x hx)

theorem isNewest_later (a b : ProofRecord) : IsNewest [a, b] (later a b) := by
  rw [later]
  split
  · next h => exact ⟨[], [b], rfl, by simp, List.forall_mem_singleton.mpr h⟩
  · next h => exact ⟨[a], [], rfl, List.forall_mem_singleton.mpr (Int.not_lt.mp h), by simp⟩

/-- The newest of some records stands for all of them. -/
theorem IsNewest.append {l rest : List ProofRecord} {kept r : ProofRecord} (h : IsNewest l kept)
    (h' : IsNewest (kept :: rest) r) : IsNewest (l ++ rest) r := by
  have hle {x : ProofRecord} (hx : x ∈ l) : x.createdAt.instant ≤ r.createdAt.instant :=
    Int.le_trans (h.le hx) (h'.le List.mem_cons_self)
  obtain ⟨before, after, hsplit, hbefore, hafter⟩ := h'
  cases before with
  | nil =>
    obtain ⟨rfl, rfl⟩ := List.cons.inj hsplit
    obtain ⟨older, younger, rfl, holder, hyounger⟩ := h
    refine ⟨older, younger ++ rest, by simp, holder, ?_⟩
    exact List.forall_mem_append.mpr ⟨hyounger, hafter⟩
  | cons x before =>
    obtain ⟨rfl, rfl⟩ := List.cons.inj hsplit
    refine ⟨l ++ before, after, by simp, List.forall_mem_append.mpr ⟨fun _ => hle, ?_⟩, hafter⟩
    exact (List.forall_mem_cons.mp hbefore).2

/-- The record that is kept so far stands for all before it. -/
theorem isNewest_foldl (a : ProofRecord) (rest : List ProofRecord) :
    IsNewest (a :: rest) (rest.foldl later a) := by
  induction rest generalizing a with
  | nil => exact ⟨[], [], rfl, by simp, by simp⟩
  | cons b rest ih => exact (isNewest_later a b).append (ih (later a b))

/-- Two records that are newest of one list do not stand at different places: the earlier would be
older than the other, and not older. -/
theorem eq_of_places {r r' : ProofRecord} {mid after after' : List ProofRecord}
    (hsplit : r :: after = mid ++ r' :: after')
    (hmid : ∀ x ∈ mid, x.createdAt.instant ≤ r'.createdAt.instant)
    (hafter : ∀ x ∈ after, x.createdAt.instant < r.createdAt.instant) : r = r' := by
  cases mid with
  | nil => exact (List.cons.inj hsplit).1
  | cons x mid =>
    obtain ⟨rfl, rfl⟩ := List.cons.inj hsplit
    have hle := hmid r List.mem_cons_self
    have hlt := hafter r' (List.mem_append_right _ List.mem_cons_self)
    omega

theorem IsNewest.unique {l : List ProofRecord} {r r' : ProofRecord} (h : IsNewest l r)
    (h' : IsNewest l r') : r = r' := by
  obtain ⟨before, after, rfl, hbefore, hafter⟩ := h
  obtain ⟨before', after', hsplit, hbefore', hafter'⟩ := h'
  rcases List.append_eq_append_iff.mp hsplit with ⟨mid, rfl, hrest⟩ | ⟨mid, rfl, hrest⟩
  · exact eq_of_places hrest (fun x hx => hbefore' x (List.mem_append_right _ hx)) hafter
  · exact (eq_of_places hrest (fun x hx => hbefore x (List.mem_append_right _ hx)) hafter').symm

theorem newest_eq_iff (l : List ProofRecord) (r : ProofRecord) :
    newest l = some r ↔ IsNewest l r := by
  cases l with
  | nil =>
    constructor
    · intro h
      cases h
    · intro h
      cases h.mem
  | cons a rest =>
    rw [newest, Option.some.injEq]
    constructor
    · rintro rfl
      exact isNewest_foldl a rest
    · exact (isNewest_foldl a rest).unique

/-- Records of different instants have one newest in every order. -/
theorem IsNewest.perm {l l' : List ProofRecord} {r : ProofRecord} (h : IsNewest l r)
    (hperm : l'.Perm l) (hdistinct : (l.map (·.createdAt.instant)).Nodup) : IsNewest l' r := by
  obtain ⟨before, after, rfl⟩ := List.append_of_mem (hperm.mem_iff.mpr h.mem)
  have hdistinct := (hperm.map (·.createdAt.instant)).nodup_iff.mpr hdistinct
  rw [List.map_append, List.map_cons] at hdistinct
  have hother := (List.nodup_cons.mp (List.nodup_append.mp hdistinct).2.1).1
  refine ⟨before, after, rfl, fun x hx => h.le (hperm.mem_iff.mp (List.mem_append_left _ hx)),
    fun x hx => ?_⟩
  have hle := h.le (hperm.mem_iff.mp (List.mem_append_right _ (List.mem_cons_of_mem _ hx)))
  have hne : x.createdAt.instant ≠ r.createdAt.instant := fun heq =>
    hother (heq ▸ List.mem_map_of_mem hx)
  omega

theorem newest_perm {l l' : List ProofRecord} (hperm : l'.Perm l)
    (hdistinct : (l.map (·.createdAt.instant)).Nodup) : newest l' = newest l := by
  have hdistinct' := (hperm.map (·.createdAt.instant)).nodup_iff.mpr hdistinct
  refine Option.ext fun r => ?_
  rw [newest_eq_iff, newest_eq_iff]
  exact ⟨fun h => h.perm hperm.symm hdistinct', fun h => h.perm hperm hdistinct⟩

/-! ## Stores -/

section Answers

variable {d : Directory} {l : List ProofRecord} (h : Represents d l)
include h

theorem Represents.latest_eq_ok_iff (r : ProofRecord) :
    d.latest .history = .ok r ↔ IsNewest l r := by
  rw [latest, h.latestInHistory_eq, ← newest_eq_iff]
  cases newest l with
  | none => simp
  | some r' => simp

/-- A history with records has a latest. -/
theorem Represents.exists_latest (hl : l ≠ []) : ∃ r, d.latest .history = .ok r := by
  cases l with
  | nil => exact absurd rfl hl
  | cons a rest => exact ⟨_, (h.latest_eq_ok_iff _).mpr (isNewest_foldl a rest)⟩

/-- Where all instants are different, the order of the records does not matter. -/
theorem Represents.latest_perm {d' : Directory} {l' : List ProofRecord} (h' : Represents d' l')
    (hperm : l'.Perm l) (hdistinct : (l.map (·.createdAt.instant)).Nodup) :
    d'.latest .history = d.latest .history := by
  rw [latest, latest, h.latestInHistory_eq, h'.latestInHistory_eq, newest_perm hperm hdistinct]

end Answers

end Directory

open Directory

/-- The latest record of a store that was empty before some calls is the newest of its history; and
where all instants are different, any other calls that leave the same records in another order lead
to the same. -/
theorem latest_is_newest (t : Instruments) {root : Text} {w : World}
    (hempty : w.store = .empty (.clear root)) (hfault : w.storeFault = none) (calls : List Call)
    (hcalls : ∀ c ∈ calls, c.Exact) :
    let l := (runCalls t calls ([], w)).1
    let d := (runCalls t calls ([], w)).2.store
    d.list .history = .ok ((names l).map .text) ∧ (∀ r ∈ l, d.get r.id.val = .ok r) ∧
    (l ≠ [] → ∃ r, d.latest .history = .ok r) ∧
    (∀ r, d.latest .history = .ok r ↔ IsNewest l r) ∧
    ∀ (t' : Instruments) (root' : Text) (w' : World) (calls' : List Call),
      w'.store = .empty (.clear root') → w'.storeFault = none → (∀ c ∈ calls', c.Exact) →
      (runCalls t' calls' ([], w')).1.Perm l → (l.map (·.createdAt.instant)).Nodup →
      (runCalls t' calls' ([], w')).2.store.latest .history = d.latest .history := by
  intro l d
  have hstart : Kept [] w := ⟨hempty ▸ represents_empty root, hfault⟩
  have hkept : Kept l _ := kept_runCalls_of_exact t calls hstart hcalls
  have hledger : Represents d l := hkept.represents
  refine ⟨(hkept.agrees t).listed, fun r hr => hledger.get_of_mem hr, hledger.exists_latest,
    hledger.latest_eq_ok_iff, ?_⟩
  intro t' root' w' calls' hempty' hfault' hcalls' hperm hdistinct
  have hstart' : Kept [] w' := ⟨hempty' ▸ represents_empty root', hfault'⟩
  have hkept' := kept_runCalls_of_exact t' calls' hstart' hcalls'
  exact hledger.latest_perm hkept'.represents hperm hdistinct

/-- A record whose clock shows a later time than that of the sample, east of it; it was made
earlier. -/
def ProofRecord.eastern : ProofRecord :=
  { ProofRecord.sample with
    id := ⟨"main-2", by decide⟩
    timestamp :=
      ⟨"2024-01-01T01:30:00+02:00",
        ⟨738885 * Calendar.daySpan + 5400 * Calendar.second, some (7200 * Calendar.second),
          by decide, by decide⟩,
        by decide +kernel, rfl⟩ }

theorem named_eastern : Named ProofRecord.eastern :=
  ⟨⟨_, _, rfl, by decide, by decide⟩, by decide⟩

/-- A record that a store takes goes to the end of the ledger. -/
theorem Kept.enter_put {l : List ProofRecord} {w : World} (h : Kept l w) (t : Instruments)
    {r : ProofRecord} (hr : Named r) (hnew : r.id.val ∉ names l)
    (hoctets : ∃ content, documentOctets r = .ok content) :
    Call.enter l (.put r .history) ((Call.put r .history).perform t w).1 = l ++ [r] := by
  rw [h.accepts hr |>.mpr ⟨hnew, hoctets⟩]
  rfl

/-- The eastern record is put last, but the sample stays the latest. -/
theorem latest_is_newest_eastern :
    let w := World.of (.empty (.clear "store"))
    let calls := [Call.put .sample .history, .put .eastern .history]
    (∀ c ∈ calls, c.Exact) ∧
      (runCalls still calls ([], w)).2.store.latest .history = .ok .sample := by
  intro w calls
  have hcalls : ∀ c ∈ calls, c.Exact := by
    intro c hc
    simp only [calls, List.mem_cons, List.not_mem_nil, or_false] at hc
    rcases hc with rfl | rfl
    · exact named_sample.exact
    · exact named_eastern.exact
  have hstart : Kept [] w := ⟨represents_empty "store", rfl⟩
  have hfits : Number.fits ProofRecord.sample.input.length = true :=
    ProofRecord.fits_of_lt (by decide)
  have hfirst := hstart.enter_put still named_sample List.not_mem_nil
    (exists_documentOctets rfl hfits (by decide))
  have hkept : Kept [.sample] (Call.perform still (.put .sample .history) w).2 := by
    have hleaves : Call.Leaves still [] w (.put .sample .history) :=
      Call.leaves_perform hstart named_sample.exact
    rwa [Call.Leaves, hfirst] at hleaves
  have hsecond := hkept.enter_put still named_eastern (by decide)
    (exists_documentOctets rfl hfits (by decide))
  have hledger : (runCalls still calls ([], w)).1 = [.sample, .eastern] := by
    rw [runCalls, runCalls, runCalls, hfirst]
    exact hsecond
  have hempty : w.store = .empty (.clear "store") := rfl
  obtain ⟨-, -, -, hlatest, -⟩ := latest_is_newest still hempty rfl calls hcalls
  refine ⟨hcalls, (hlatest _).mpr ?_⟩
  rw [hledger]
  exact ⟨[], [.eastern], rfl, by simp, List.forall_mem_singleton.mpr (by decide)⟩

end ProofLedger
