import ProofLedger.Proofs.Store.Calls

/-!
# Where the pointer goes

`pointer_follows_calls`: from an empty store on, whatever is called and however it ends, the pointer
names nothing or one record of the history, which is the baseline. What it names after a call is
told by the call and its end alone (`Call.aims`): it moves to the record of a `put` into the
baseline or of a `promote` that succeeded, it is unset by a prune that has returned its name, and
it stays otherwise.

`Call.targets_perform` is the step. It goes through the plans a call may carry out; the ledger that
the step leaves says that what is named is there.
-/

namespace ProofLedger

open Directory

namespace Directory

/-- The pointer names nothing, or one record of the history, and that is the baseline. -/
structure Targets (d : Directory) (b : Option Text) : Prop where
  file : d.pointer = b.map fun id => octets (pointerText id)
  listed : d.list .baseline = .ok (b.toList.map .text)
  held : ∀ id ∈ b, ∃ ids r, d.list .history = .ok ids ∧ .text id ∈ ids ∧
    d.get id = .ok r ∧ r.id.val = id ∧ d.baseline = .ok r

variable {d d' : Directory} {l l' : List ProofRecord} {b : Option Text}

theorem Represents.targets_none (h : Represents d l) (hpointer : d.pointer = none) :
    Targets d none where
  file := hpointer
  listed := by
    rw [list, pointed_none (h.check pointerName) hpointer]
    rfl
  held := fun _ hid => nomatch hid

theorem Represents.targets_some (h : Represents d l) {r : ProofRecord} (hr : r ∈ l)
    (hpointer : d.pointer = some (octets (pointerText r.id.val))) :
    Targets d (some r.id.val) where
  file := hpointer
  listed := by
    have hexact := (h.named r hr).exact
    have hholds : (Data.text r.id.val).holds = true := by
      simp [Data.holds, hexact.ne_nil]
    rw [list, pointed_eq (h.check pointerName) hexact hpointer, Except.map, if_pos hholds]
    rfl
  held := by
    intro id hid
    obtain rfl := Option.some.inj hid
    refine ⟨(names l).map .text, r, ?_, ?_, h.get_of_mem hr, rfl, ?_⟩
    · rw [list, h.history]
      rfl
    · exact List.mem_map_of_mem (List.mem_map_of_mem hr)
    · have hpointed := pointed_eq (h.check pointerName) (h.named r hr).exact hpointer
      rw [baseline, hpointed]
      exact h.get_of_mem hr

/-- The pointer of a ledger names nothing or one of its records. -/
theorem Represents.exists_targets (h : Represents d l) : ∃ b, Targets d b := by
  rcases h.pointer with hnone | ⟨r, hr, hpointer⟩
  · exact ⟨none, h.targets_none hnone⟩
  · exact ⟨some r.id.val, h.targets_some hr hpointer⟩

/-- What is listed as the baseline is what is named. -/
theorem Targets.eq_of_listed {b' : Option Text} (hb : Targets d b) (hb' : Targets d' b')
    (hsame : d'.list .baseline = d.list .baseline) : b' = b := by
  rw [hb.listed, hb'.listed, Except.ok.injEq] at hsame
  cases b <;> cases b' <;> simp_all

/-- While the pointer stays, so does what it names. -/
theorem Targets.of_same (hb : Targets d b) (h : Represents d l) (h' : Represents d' l')
    (hpointer : d'.pointer = d.pointer) : Targets d' b := by
  obtain ⟨b', hb'⟩ := h'.exists_targets
  have hsame : d'.list .baseline = d.list .baseline := by
    rw [list, list, h.pointed_congr (h'.check pointerName) hpointer]
  exact hb.eq_of_listed hb' hsame ▸ hb'

/-- The name that is read from the pointer is the one it names. -/
theorem Targets.name_eq (hb : Targets d b) {current : Data} (hpointed : d.pointed = .ok current)
    (h : Represents d l) : name? current = b := by
  have htarget : ∃ b', Targets d b' ∧ name? current = b' := by
    rcases h.pointed_cases with ⟨hnone, hread⟩ | ⟨r, hr, hpointer, hread⟩
    · rw [hpointed] at hread
      cases hread
      exact ⟨none, h.targets_none hnone, rfl⟩
    · rw [hpointed] at hread
      cases hread
      exact ⟨some r.id.val, h.targets_some hr hpointer, rfl⟩
  obtain ⟨b', hb', rfl⟩ := htarget
  exact hb.eq_of_listed hb' rfl

/-- A name that is not among those deleted is left. -/
theorem filter_of_stays {deleted : List Text} (hstays : b.any deleted.contains = false) :
    b.filter (fun id => !deleted.contains id) = b := by
  cases b with
  | none => rfl
  | some id =>
    rw [Option.any] at hstays
    rw [Option.filter, hstays]
    rfl

end Directory

namespace Call

/-- What the pointer names after a call, from what it named before and the end of the call. -/
def aims (b : Option Text) : Call → Except Failure (List Text) → Option Text
  | .put r .baseline, .ok _ => some r.id.val
  | .promote (.text id), .ok _ => some id
  | .prune _ _ false, .ok gone => b.filter fun id => !gone.contains id
  | _, _ => b

theorem aims_error (b : Option Text) (c : Call) (f : Failure) : aims b c (.error f) = b := by
  cases c with
  | put r slot => cases slot <;> rfl
  | promote id => cases id <;> rfl
  | prune now age keepBaseline => cases keepBaseline <;> rfl

section Plans

variable {d : Directory} {l : List ProofRecord} {b : Option Text} {r : ProofRecord}

/-- A record that is put into the history leaves the pointer alone, stored or not. -/
theorem targets_putHistory (h : Represents d l) (hb : Targets d b)
    (hr : Identity.IsExact r.id.val) :
    Targets ((d.putHistory r).final d) b := by
  rcases (putHistory_ends d r).keeps h.clear with ⟨-, hstores⟩ | ⟨f, -, hkeeps⟩
  · exact hb.of_same h (h.stores hr hstores) hstores.pointer
  · exact hb.of_same h (h.keeps hkeeps) hkeeps.pointer

/-- A record that is to become the baseline is what the pointer names then, or nothing has
changed. -/
theorem targets_putBaseline (h : Represents d l) (hb : Targets d b)
    (hr : Identity.IsExact r.id.val) :
    ((d.putBaseline r).outcome = .ok () ∧ Targets ((d.putBaseline r).final d) (some r.id.val)) ∨
      ∃ f, (d.putBaseline r).outcome = .error f ∧ Targets ((d.putBaseline r).final d) b := by
  rcases (putBaseline_ends d r).keeps h.clear with ⟨hok, hpromotes⟩ | ⟨f, hfail, hkeeps⟩
  · have hmem : r ∈ including l r := by
      rw [including]
      split
      · assumption
      · exact List.mem_append_right _ List.mem_cons_self
    exact .inl ⟨hok, (h.promotes hr hpromotes).targets_some hmem hpromotes.pointer⟩
  · exact .inr ⟨f, hfail, hb.of_same h (h.keeps hkeeps) hkeeps.pointer⟩

/-- Forgetting names unsets the pointer when the name it holds is among them. -/
theorem targets_forget (h : Represents d l) (hb : Targets d b) {current : Data}
    (hpointed : d.pointed = .ok current) {deleted : List Text} (hnodup : deleted.Nodup) :
    Targets ((forget d.site (name? current) (names (without l deleted)) deleted).final d)
      (b.filter fun id => !deleted.contains id) := by
  have hledger := h.forget hpointed hnodup
  have hpointer := (forget_eq d.site (name? current) (names (without l deleted)) hnodup d).2.pointer
  rw [hb.name_eq hpointed h] at hpointer hledger ⊢
  cases b with
  | none => exact hb.of_same h hledger hpointer
  | some id =>
    cases hgone : deleted.contains id with
    | true =>
      rw [Option.any, hgone] at hpointer
      rw [Option.filter, hgone]
      exact hledger.targets_none hpointer
    | false =>
      rw [Option.any, hgone] at hpointer
      rw [Option.filter, hgone]
      exact hb.of_same h hledger hpointer

/-- A prune leaves the pointer alone unless it returns the name that the pointer holds, which it
does only when the baseline is not kept. -/
theorem targets_prune (h : Represents d l) (hb : Targets d b) (now : Option Moment) (age : Int)
    (keep : Bool) {p : Plan (List Text)} (hp : Prunes d l keep p) :
    Targets (p.final d) (aims b (.prune now age keep) p.outcome) := by
  cases hp with
  | refuse f =>
    have hfail : (Plan.refuse f : Plan (List Text)).outcome = .error f := rfl
    rw [hfail, aims_error]
    exact hb
  | nothing =>
    cases keep with
    | true => exact hb
    | false =>
      have hall : aims b (.prune now age false) (.ok []) = b := by
        cases b <;> rfl
      exact hall.symm ▸ hb
  | @forget current deleted hpointed hnodup hkept =>
    have htargets := targets_forget h hb hpointed hnodup
    rw [(forget_eq d.site _ _ hnodup d).1]
    cases keep with
    | false => exact htargets
    | true =>
      have hstays := hkept rfl
      rw [hb.name_eq hpointed h] at hstays
      exact filter_of_stays hstays ▸ htargets

end Plans

/-- After any call the pointer names what the call and its end say. -/
theorem targets_perform {t : Instruments} {l : List ProofRecord} {w : World} {b : Option Text}
    (h : Kept l w) (hb : Targets w.store b) {c : Call} (hc : c.Exact) :
    Targets (c.perform t w).2.store (c.aims b (c.perform t w).1) := by
  obtain ⟨p, w', hcarries, htries⟩ := c.exists_tries t h
  rw [hcarries.run]
  dsimp only
  rw [hcarries.store]
  cases htries with
  | refuse c f =>
    have hfail : (Plan.refuse f : Plan (List Text)).outcome = .error f := rfl
    rw [hfail, aims_error]
    exact hb
  | put r slot =>
    cases slot with
    | history =>
      have haims : aims b (.put r .history) ((w.store.putHistory r).returning []).outcome = b := by
        cases ((w.store.putHistory r).returning []).outcome <;> rfl
      exact haims.symm ▸ targets_putHistory h.represents hb hc
    | baseline =>
      rw [Directory.put, Plan.returning]
      rcases targets_putBaseline h.represents hb hc with ⟨hok, hmoved⟩ | ⟨f, hfail, hstays⟩
      · rw [hok]
        exact hmoved
      · rw [hfail]
        exact hstays
  | promote hfound =>
    obtain ⟨hr, rfl⟩ := h.represents.mem_of_get hfound
    rw [Plan.returning]
    rcases targets_putBaseline h.represents hb (h.represents.named _ hr).exact with ⟨hok, hmoved⟩ |
      ⟨f, hfail, hstays⟩
    · rw [hok]
      exact hmoved
    · rw [hfail]
      exact hstays
  | prune now age keep cutoff =>
    exact targets_prune h.represents hb now age keep (h.represents.prunes cutoff keep)

end Call

/-- After any calls to a store that was empty, the pointer names nothing or one record of the
history, which is the baseline, and every further call moves it as the call and its end say. -/
theorem pointer_follows_calls (t : Instruments) {root : Text} {w : World}
    (hempty : w.store = .empty (.clear root)) (hfault : w.storeFault = none) (calls : List Call)
    (hcalls : ∀ c ∈ calls, c.Exact) :
    let s := (runCalls t calls ([], w)).2
    ∃ b, Targets s.store b ∧
      ∀ c : Call, c.Exact → Targets (c.perform t s).2.store (c.aims b (c.perform t s).1) := by
  intro s
  have hstart : Kept [] w := ⟨hempty ▸ represents_empty root, hfault⟩
  have hkept := kept_runCalls_of_exact t calls hstart hcalls
  obtain ⟨b, hb⟩ := hkept.represents.exists_targets
  exact ⟨b, hb, fun c hc => Call.targets_perform hkept hb hc⟩

/-- The pointer moves to a record that is promoted, and a prune that may take the baseline unsets
it. -/
theorem pointer_follows_calls_pruned :
    let w := World.of (.empty (.clear "store"))
    let s := (runCalls still Call.settling ([], w)).2
    (∀ c ∈ Call.settling, c.Exact) ∧ (Call.prune none (-1) false).Exact ∧
      ∃ b, Targets s.store b ∧ Targets ((Call.prune none (-1) false).perform still s).2.store
        ((Call.prune none (-1) false).aims b ((Call.prune none (-1) false).perform still s).1) := by
  intro w s
  obtain ⟨b, hb, hstep⟩ :=
    pointer_follows_calls still (w := w) rfl rfl Call.settling Call.exact_settling
  exact ⟨Call.exact_settling, trivial, b, hb, hstep (.prune none (-1) false) trivial⟩

end ProofLedger
