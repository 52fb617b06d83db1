import ProofLedger.Proofs.Store.Acts
import ProofLedger.Proofs.Store.LedgerPrune

/-!
# A store refines a ledger

Calls to a store (`Call`) are run on a world, and beside them a ledger is kept that only knows
which calls succeeded: a record that was accepted goes to its end, and names that a prune has
returned drop out. `history_refines_ledger`: after any calls the store answers as the ledger
does. What one call keeps is `Call.leaves_perform`, and `kept_runCalls` is the induction on
the calls.

Names are exact and short, and storage is in order; a call may fail for every other reason.
-/

namespace ProofLedger

open Directory

/-- A call to a store. A prune is told the time or reads the clock. -/
inductive Call where
  | put (r : ProofRecord) (slot : Slot)
  | promote (id : Data)
  | prune (now : Option Moment) (age : Int) (keepBaseline : Bool)

namespace Call

/-- Runs a call. The result of a prune is the names that went; the other calls have none. -/
def perform (t : Instruments) : Call → Act (List Text)
  | .put r slot => do
    Act.put r (.text slot.text)
    pure []
  | .promote id => do
    let _ ← Act.promote id
    pure []
  | .prune none age keepBaseline => Act.prune t age keepBaseline
  | .prune (some now) age keepBaseline => do
    let cutoff ← Act.lift (cutoffOf now age)
    Act.locking (·.pruneBefore cutoff keepBaseline)

/-- What a call makes of a ledger, from its end alone. -/
def enter (l : List ProofRecord) : Call → Except Failure (List Text) → List ProofRecord
  | .put r .history, .ok _ => l ++ [r]
  | .put r .baseline, .ok _ => including l r
  | .prune .., .ok ids => without l ids
  | _, _ => l

/-- The records that are put have names that an index gives back and a disk can have. -/
def Proper : Call → Prop
  | .put r _ => Named r
  | _ => True

/-- The records that are put have names that an index gives back. -/
def Exact : Call → Prop
  | .put r _ => Identity.IsExact r.id.val
  | _ => True

theorem Proper.exact {c : Call} (h : c.Proper) : c.Exact := by
  cases c with
  | put r slot => exact Named.exact h
  | promote id => trivial
  | prune now age keepBaseline => trivial

end Call

/-- Runs calls one after another, on a world and beside it on a ledger. -/
def runCalls (t : Instruments) : List Call → List ProofRecord × World → List ProofRecord × World
  | [], s => s
  | c :: cs, (l, w) =>
    let r := c.perform t w
    runCalls t cs (c.enter l r.1, r.2)

/-- The store of the world holds the ledger, and storage is in order. -/
structure Kept (l : List ProofRecord) (w : World) : Prop where
  represents : Represents w.store l
  inOrder : w.storeFault = none

theorem Kept.keeps {l : List ProofRecord} {w w' : World} (h : Kept l w)
    (hstore : Keeps w.store w'.store) (hfault : w'.storeFault = w.storeFault) : Kept l w' :=
  ⟨h.represents.keeps hstore, hfault.trans h.inOrder⟩

namespace Call

variable {l : List ProofRecord} {w w' : World} (t : Instruments)

theorem enter_error (l : List ProofRecord) (c : Call) (f : Failure) : enter l c (.error f) = l := by
  cases c with
  | put r slot => cases slot <;> rfl
  | promote id => rfl
  | prune now age keepBaseline => rfl

/-- What a call leaves behind when it has come to an end. -/
def Leaves (l : List ProofRecord) (w : World) (c : Call) : Prop :=
  Kept (enter l c (perform t c w).1) (perform t c w).2

variable {t}

theorem leaves_of_ok {c : Call} {ids : List Text} (hrun : perform t c w = (.ok ids, w'))
    (h : Kept (enter l c (.ok ids)) w') : Leaves t l w c := by
  rw [Leaves, hrun]
  exact h

theorem leaves_of_error {c : Call} {f : Failure} (hrun : perform t c w = (.error f, w'))
    (h : Kept l w') : Leaves t l w c := by
  rw [Leaves, hrun, enter_error]
  exact h

/-- Where nothing is in the way, a put does what its slot wants, or it fails and no file has
changed. -/
theorem put_cases (t : Instruments) (hclear : w.store.site.defects = []) (r : ProofRecord)
    (slot : Slot) : ∃ w', w'.storeFault = w.storeFault ∧
      ((perform t (.put r slot) w = (.ok [], w') ∧ Puts r slot w.store w'.store) ∨
        ∃ f, perform t (.put r slot) w = (.error f, w') ∧ Keeps w.store w'.store) := by
  rcases Act.storing_cases (.text slot.text) (fun s d => d.put r s) w with
    ⟨f, hrun⟩ | ⟨s, w', hslot, hput⟩
  · exact ⟨w, rfl, .inr ⟨f, Act.bind_eq_of_error hrun, Keeps.refl _⟩⟩
  · rw [Act.parse_text] at hslot
    cases hslot
    refine ⟨w', hput.storeFault, ?_⟩
    rw [hput.store]
    rcases (put_ends w.store r slot).keeps hclear with ⟨hok, hputs⟩ | ⟨f, hfail, hkeeps⟩
    · exact .inl ⟨Act.bind_eq_of_ok (hput.run.trans (by rw [hok])), hputs⟩
    · exact .inr ⟨f, Act.bind_eq_of_error (hput.run.trans (by rw [hfail])), hkeeps⟩

/-- Where storage is in order, the plan of a put into the history decides how the call ends. -/
theorem put_history_ok_iff (t : Instruments) (hfault : w.storeFault = none)
    (hlock : w.store.site.isFolder lockName = false) (r : ProofRecord) :
    (perform t (.put r .history) w).1 = .ok [] ↔ (w.store.putHistory r).outcome = .ok () := by
  obtain ⟨w', hput⟩ := Act.carries_storing hfault hlock .history fun s d => d.put r s
  cases hout : (w.store.putHistory r).outcome with
  | ok u =>
    have hrun : Act.put r (.text Slot.history.text) w = (.ok (), w') :=
      hput.run.trans (by rw [Directory.put, hout])
    rw [perform, Act.bind_eq_of_ok hrun]
    exact ⟨fun _ => rfl, fun _ => rfl⟩
  | error f =>
    have hrun : Act.put r (.text Slot.history.text) w = (.error f, w') :=
      hput.run.trans (by rw [Directory.put, hout])
    rw [perform, Act.bind_eq_of_error hrun]
    simp

theorem leaves_put (h : Kept l w) {r : ProofRecord} (hr : Identity.IsExact r.id.val) (slot : Slot) :
    Leaves t l w (.put r slot) := by
  obtain ⟨w', hfault, ⟨hrun, hputs⟩ | ⟨f, hrun, hkeeps⟩⟩ := put_cases t h.represents.clear r slot
  · refine leaves_of_ok hrun ⟨?_, hfault.trans h.inOrder⟩
    cases slot with
    | history => exact h.represents.stores hr hputs
    | baseline => exact h.represents.promotes hr hputs
  · exact leaves_of_error hrun (h.keeps hkeeps hfault)

/-- A record that is promoted is in the ledger already. -/
theorem leaves_promote (h : Kept l w) (id : Data) : Leaves t l w (.promote id) := by
  cases hget : w.store.getNamed id with
  | error f =>
    have hask : Act.ask (·.getNamed id) w = (.error f, w) := Act.ask_eq hget
    exact leaves_of_error (Act.bind_eq_of_error (Act.bind_eq_of_error hask)) h
  | ok r =>
    have hask : Act.ask (·.getNamed id) w = (.ok r, w) := Act.ask_eq hget
    obtain ⟨name, -, hname⟩ := bind_eq_ok hget
    have hr : r ∈ l := (h.represents.mem_of_get hname).1
    obtain ⟨w', hput⟩ := Act.carries_storing h.inOrder (h.represents.isFolder lockName) .baseline
      fun _ d => d.putBaseline r
    rcases (putBaseline_ends w.store r).keeps h.represents.clear with
      ⟨hok, hpromotes⟩ | ⟨f, hf, hkeeps⟩
    · have hledger := h.represents.promotes (h.represents.named r hr).exact hpromotes
      rw [including, if_pos hr] at hledger
      have hpromote : Act.promote id w = (.ok r, w') :=
        (Act.bind_eq_of_ok hask).trans (Act.bind_eq_of_ok (hput.run.trans (by rw [hok])))
      exact leaves_of_ok (Act.bind_eq_of_ok hpromote)
        ⟨hput.store ▸ hledger, hput.storeFault.trans h.inOrder⟩
    · have hpromote : Act.promote id w = (.error f, w') :=
        (Act.bind_eq_of_ok hask).trans (Act.bind_eq_of_error (hput.run.trans (by rw [hf])))
      exact leaves_of_error (Act.bind_eq_of_error hpromote)
        (h.keeps (hput.store ▸ hkeeps) hput.storeFault)

/-- A prune that is told the time. -/
theorem prune_at_cases (t : Instruments) (now : Moment) (age : Int) (keepBaseline : Bool)
    (w : World) :
    (∃ f, perform t (.prune (some now) age keepBaseline) w = (.error f, w)) ∨
      ∃ cutoff w', Act.Carries (perform t (.prune (some now) age keepBaseline))
        (w.store.pruneBefore cutoff keepBaseline) w w' := by
  cases hcutoff : cutoffOf now age with
  | error f =>
    exact .inl ⟨f, Act.bind_eq_of_error (Act.lift_eq hcutoff)⟩
  | ok cutoff =>
    have hlift : Act.lift (cutoffOf now age) w = (.ok cutoff, w) := Act.lift_eq hcutoff
    rcases Act.locking_cases (·.pruneBefore cutoff keepBaseline) w with ⟨f, -, hlocked⟩ |
      ⟨w', hcarries⟩
    · exact .inl ⟨f, (Act.bind_eq_of_ok hlift).trans hlocked⟩
    · refine .inr ⟨cutoff, w', ?_, hcarries.store, hcarries.storeFault, hcarries.journal⟩
      exact (Act.bind_eq_of_ok hlift).trans hcarries.run

/-- A prune ends before it touches the store, or its plan is carried out with some cutoff. -/
theorem prune_cases (t : Instruments) (now : Option Moment) (age : Int) (keepBaseline : Bool)
    (w : World) :
    (∃ f w', perform t (.prune now age keepBaseline) w = (.error f, w') ∧ w'.store = w.store ∧
        w'.storeFault = w.storeFault ∧ w'.journal = w.journal) ∨
      ∃ cutoff w', Act.Carries (perform t (.prune now age keepBaseline))
        (w.store.pruneBefore cutoff keepBaseline) w w' := by
  cases now with
  | some now =>
    rcases prune_at_cases t now age keepBaseline w with ⟨f, hrun⟩ | hprune
    · exact .inl ⟨f, w, hrun, rfl, rfl, rfl⟩
    · exact .inr hprune
  | none =>
    let read : World := { w with clockReads := w.clockReads + 1 }
    cases hclock : t.clock w.clockReads with
    | error f =>
      have hread : Act.readClock t w = (.error (.fault (.time f)), read) := by
        rw [Act.readClock, hclock]
        rfl
      exact .inl ⟨_, read, Act.bind_eq_of_error hread, rfl, rfl, rfl⟩
    | ok now =>
      have hread : Act.readClock t w = (.ok now, read) := by
        rw [Act.readClock, hclock]
        rfl
      have hrun : perform t (.prune none age keepBaseline) w =
          perform t (.prune (some now) age keepBaseline) read := Act.bind_eq_of_ok hread
      rcases prune_at_cases t now age keepBaseline read with ⟨f, hfail⟩ | ⟨cutoff, w', hcarries⟩
      · exact .inl ⟨f, read, hrun.trans hfail, rfl, rfl, rfl⟩
      · refine .inr ⟨cutoff, w', ?_, hcarries.store, hcarries.storeFault, hcarries.journal⟩
        exact hrun.trans hcarries.run

theorem leaves_prune (h : Kept l w) (now : Option Moment) (age : Int) (keepBaseline : Bool) :
    Leaves t l w (.prune now age keepBaseline) := by
  rcases prune_cases t now age keepBaseline w with ⟨f, w', hrun, hstore, hfault, -⟩ |
    ⟨cutoff, w', hprune⟩
  · exact leaves_of_error hrun (h.keeps (hstore ▸ Keeps.refl _) hfault)
  · rcases h.represents.pruneBefore cutoff keepBaseline with ⟨deleted, hok, hledger, -⟩ |
      ⟨f, hf, hkeeps⟩
    · exact leaves_of_ok (hprune.run.trans (by rw [hok]))
        ⟨hprune.store ▸ hledger, hprune.storeFault.trans h.inOrder⟩
    · exact leaves_of_error (hprune.run.trans (by rw [hf]))
        (h.keeps (hprune.store ▸ hkeeps) hprune.storeFault)

/-- What one call keeps. -/
theorem leaves_perform (h : Kept l w) {c : Call} (hc : c.Exact) : Leaves t l w c := by
  cases c with
  | put r slot => exact leaves_put h hc slot
  | promote id => exact leaves_promote h id
  | prune now age keepBaseline => exact leaves_prune h now age keepBaseline

end Call

/-- What any calls keep, one after another. A name that is too long for a disk is one more reason
for a call to fail. -/
theorem kept_runCalls_of_exact (t : Instruments) (calls : List Call) {l : List ProofRecord}
    {w : World} (h : Kept l w) (hcalls : ∀ c ∈ calls, c.Exact) :
    Kept (runCalls t calls (l, w)).1 (runCalls t calls (l, w)).2 := by
  induction calls generalizing l w with
  | nil => exact h
  | cons c calls ih =>
    have hstep : Call.Leaves t l w c := Call.leaves_perform h (hcalls c List.mem_cons_self)
    exact ih hstep fun x hx => hcalls x (List.mem_cons_of_mem _ hx)

theorem kept_runCalls (t : Instruments) (calls : List Call) {l : List ProofRecord} {w : World}
    (h : Kept l w) (hcalls : ∀ c ∈ calls, c.Proper) :
    Kept (runCalls t calls (l, w)).1 (runCalls t calls (l, w)).2 :=
  kept_runCalls_of_exact t calls h fun c hc => (hcalls c hc).exact

/-- The store of a world answers as a ledger does. -/
structure Agrees (t : Instruments) (l : List ProofRecord) (w : World) : Prop where
  /-- The history lists the names of the ledger, in its order and each once. -/
  listed : w.store.list .history = .ok ((names l).map .text)
  distinct : (names l).Nodup
  /-- Under each name is the very record of the ledger. -/
  found : ∀ r ∈ l, w.store.get r.id.val = .ok r ∧ w.store.contains r.id.val = .ok true
  /-- There is nothing under any other name that a disk can have. -/
  absent : ∀ id, id ∉ names l → (Identity.isStorable id = true → isLongName id = false) →
    (∃ e : LedgerError, w.store.get id = .error (.ledger e) ∧ e.code = .notFound) ∧
      w.store.contains id = .ok false
  /-- A record is taken into the history when its name is new and it has octets, and only
  then. -/
  accepts : ∀ r, Named r →
    (((Call.put r .history).perform t w).1 = .ok [] ↔
      r.id.val ∉ names l ∧ ∃ content, documentOctets r = .ok content)

theorem Kept.accepts {t : Instruments} {l : List ProofRecord} {w : World} (h : Kept l w)
    {r : ProofRecord} (hr : Named r) :
    ((Call.put r .history).perform t w).1 = .ok [] ↔
      r.id.val ∉ names l ∧ ∃ content, documentOctets r = .ok content :=
  (Call.put_history_ok_iff t h.inOrder (h.represents.isFolder lockName) r).trans
    (h.represents.putHistory_ok_iff hr)

theorem Kept.agrees {l : List ProofRecord} {w : World} (h : Kept l w) (t : Instruments) :
    Agrees t l w where
  listed := by
    rw [list, h.represents.history]
    rfl
  distinct := h.represents.nodup
  found := fun _ hr => ⟨h.represents.get_of_mem hr, h.represents.contains_of_mem hr⟩
  absent := fun _ hid hshort =>
    ⟨h.represents.get_of_not_mem hid hshort, h.represents.contains_of_not_mem hid hshort⟩
  accepts := fun _ hr => h.accepts hr

/-- After any calls to a store that was empty, it answers as the ledger of the records that
were accepted and not pruned since. -/
theorem history_refines_ledger (t : Instruments) {root : Text} {w : World}
    (hempty : w.store = .empty (.clear root)) (hfault : w.storeFault = none) (calls : List Call)
    (hcalls : ∀ c ∈ calls, c.Proper) :
    Agrees t (runCalls t calls ([], w)).1 (runCalls t calls ([], w)).2 := by
  have hstart : Kept [] w := ⟨hempty ▸ represents_empty root, hfault⟩
  exact (kept_runCalls t calls hstart hcalls).agrees t

/-- Instruments that always show the same. -/
def still : Instruments := ⟨fun _ => .ok ProofRecord.sample.createdAt, fun _ => .zero⟩

theorem named_sample : Named ProofRecord.sample := ⟨⟨_, _, rfl, by decide, by decide⟩, by decide⟩

/-- A record is put, promoted, pruned together with the pointer to it, and put again. -/
theorem history_refines_ledger_sample :
    let calls := [Call.put .sample .history, .promote (.text "main-1"), .prune none (-1) false,
      .put .sample .baseline, .put .sample .history]
    let w := World.of (.empty (.clear "store"))
    (∀ c ∈ calls, c.Proper) ∧
      Agrees still (runCalls still calls ([], w)).1 (runCalls still calls ([], w)).2 := by
  intro calls w
  have hcalls : ∀ c ∈ calls, c.Proper := by
    intro c hc
    simp only [calls, List.mem_cons, List.not_mem_nil, or_false] at hc
    rcases hc with rfl | rfl | rfl | rfl | rfl
    · exact named_sample
    · trivial
    · trivial
    · exact named_sample
    · exact named_sample
  exact ⟨hcalls, history_refines_ledger still rfl rfl calls hcalls⟩

end ProofLedger
