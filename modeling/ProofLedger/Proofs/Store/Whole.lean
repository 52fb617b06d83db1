import ProofLedger.Proofs.Record.RoundTrip
import ProofLedger.Proofs.Store.Acts

/-!
# All or nothing

A command that stores a record does the whole of it or nothing at all, on every store whose files
hold anything whatever: damaged pointers, indexes and record files included. `Act.AllOrNothing` says
so of one command; `put_promote_all_or_nothing` is about `put` and `promote`, for every slot and
every id that a caller may name.

What makes it so is that every question a plan may fail on comes before its first step. The
temporary file is the one thing that a failing plan may still touch, and it is gone in the end
(`Plan.Tidy`). An index that takes no line is left out: there the storage itself fails between two
steps.
-/

namespace ProofLedger

/-! ## The temporary file -/

namespace Plan

variable {α β : Type}

/-- The plan leaves no temporary file where there was none. -/
def Tidy (p : Plan α) : Prop := ∀ d : Directory, d.temp = none → (p.final d).temp = none

theorem tidy_of_steps_nil {p : Plan α} (h : p.steps = []) : p.Tidy := by
  intro d hd
  rw [final, h]
  exact hd

theorem tidy_after {x : Except Failure α} {next : α → Plan β} (h : ∀ a, (next a).Tidy) :
    (after x next).Tidy := by
  cases x with
  | error f => exact tidy_of_steps_nil rfl
  | ok a => exact h a

theorem Tidy.andThen {p : Plan α} {next : α → Plan β} (hp : p.Tidy) (h : ∀ a, (next a).Tidy) :
    (p.andThen next).Tidy := by
  intro d hd
  cases hout : p.outcome with
  | error f =>
    rw [final_andThen_error hout]
    exact hp d hd
  | ok a =>
    rw [final_andThen_ok hout]
    exact h a _ (hp d hd)

end Plan

namespace Directory

variable (d : Directory) (r : ProofRecord)

theorem tidy_create (id : Text) (content : Bytes) : (d.create id content).Tidy := by
  unfold create
  split
  · exact fun _ _ => rfl
  · exact fun _ _ => rfl
  · next written _ _ _ => cases written <;> exact fun _ _ => rfl
  · exact fun _ _ => rfl

theorem tidy_putHistory : (d.putHistory r).Tidy :=
  Plan.tidy_after fun _ => Plan.tidy_after fun content =>
    (tidy_create d r.id.val content).andThen fun _ => Plan.tidy_of_steps_nil rfl

theorem tidy_ensure : (d.ensure r).Tidy := by
  refine Plan.tidy_after fun _ => Plan.tidy_after fun _ => ?_
  split
  · exact Plan.tidy_after fun _ => Plan.tidy_of_steps_nil rfl
  · exact Plan.tidy_after fun content => tidy_create d r.id.val content

theorem tidy_putBaseline : (d.putBaseline r).Tidy :=
  Plan.tidy_after fun _ => Plan.tidy_after fun _ => Plan.tidy_after fun _ =>
    (tidy_ensure d r).andThen fun _ _ _ => rfl

/-- A directory whose files have not changed is the same when it has no temporary file. -/
theorem Keeps.eq {d d' : Directory} (h : Keeps d d') (htemp : d'.temp = d.temp) : d' = d := by
  cases d
  cases d'
  obtain ⟨hrecords, hindex, hpointer, hsite⟩ := h
  simp_all

end Directory

/-! ## Commands -/

namespace Act

open Directory

variable {α β : Type}

/-- The command does all that is asked of it to the files of the store, or it fails and every file
is as it was. Either way there is no temporary file. -/
def AllOrNothing (a : Act α) (w : World) (S : α → Directory → Prop) : Prop :=
  (∃ x w', a w = (.ok x, w') ∧ S x w'.store ∧ w'.store.temp = none) ∨
    ∃ f w', a w = (.error f, w') ∧ w'.store = w.store ∧ w'.store.temp = none

variable {w : World}

/-- A result that is put in the place of another changes no file. -/
theorem AllOrNothing.returning {a : Act α} {S : α → Directory → Prop} (h : a.AllOrNothing w S)
    (b : β) : AllOrNothing (a >>= fun _ => pure b) w fun x d' => x = b ∧ ∃ y, S y d' := by
  rcases h with ⟨x, w', hrun, hdone, htemp⟩ | ⟨f, w', hrun, hsame⟩
  · exact .inl ⟨b, w', bind_eq_of_ok hrun, ⟨rfl, x, hdone⟩, htemp⟩
  · exact .inr ⟨f, w', bind_eq_of_error hrun, hsame⟩

/-- A plan that ends as it may on any store, and leaves no temporary file, is carried out as a whole
or not at all. -/
theorem allOrNothing_storing (hclear : w.store.site.defects = []) (htemp : w.store.temp = none)
    (slot : Data) {plan : Slot → Directory → Plan Unit} {S : Slot → Directory → Prop}
    (hends : ∀ s, (plan s w.store).Ends w.store (S s)) (htidy : ∀ s, (plan s w.store).Tidy) :
    AllOrNothing (storing slot plan) w fun _ d' => ∃ s, Slot.parse slot = .ok s ∧ S s d' := by
  rcases storing_cases slot plan w with ⟨f, hrun⟩ | ⟨s, w', hslot, hcarries⟩
  · exact .inr ⟨f, w, hrun, rfl, htemp⟩
  · have hnone : w'.store.temp = none := hcarries.store ▸ htidy s w.store htemp
    rcases hends s with ⟨hok, hdone⟩ | ⟨f, hfail, hunmoved⟩
    · have hrun : storing slot plan w = (.ok (), w') := by rw [hcarries.run, hok]
      exact .inl ⟨(), w', hrun, ⟨s, hslot, hcarries.store ▸ hdone⟩, hnone⟩
    · have hrun : storing slot plan w = (.error f, w') := by rw [hcarries.run, hfail]
      have hkeeps := hunmoved.keeps hclear
      rw [← hcarries.store] at hkeeps
      exact .inr ⟨f, w', hrun, hkeeps.eq (hnone.trans htemp.symm), hnone⟩

/-- On every store with nothing in its way, whatever the files hold, `put` and `promote` do the
whole of their work or change no file. -/
theorem put_promote_all_or_nothing (hclear : w.store.site.defects = [])
    (htemp : w.store.temp = none) :
    (∀ r slot, AllOrNothing (put r slot) w fun _ d' =>
        ∃ s, Slot.parse slot = .ok s ∧ Puts r s w.store d') ∧
      ∀ id, AllOrNothing (promote id) w fun r d' =>
        w.store.getNamed id = .ok r ∧ Promotes r w.store d' := by
  refine ⟨fun r slot => ?_, fun id => ?_⟩
  · refine allOrNothing_storing hclear htemp slot (fun s => ?_) fun s => ?_
    · cases s with
      | history => exact putHistory_ends w.store r
      | baseline => exact putBaseline_ends w.store r
    · cases s with
      | history => exact tidy_putHistory w.store r
      | baseline => exact tidy_putBaseline w.store r
  · cases hget : w.store.getNamed id with
    | error f => exact .inr ⟨f, w, bind_eq_of_error (ask_eq hget), rfl, htemp⟩
    | ok r =>
      have hput : AllOrNothing (storing (.text Slot.baseline.text) fun _ d => d.putBaseline r) w
          fun _ d' => ∃ s, Slot.parse (.text Slot.baseline.text) = .ok s ∧ Promotes r w.store d' :=
        allOrNothing_storing hclear htemp _ (fun _ => putBaseline_ends w.store r)
          fun _ => tidy_putBaseline w.store r
      have hrest : promote id w =
          ((storing (.text Slot.baseline.text) fun _ d => d.putBaseline r) >>= fun _ => pure r) w :=
        bind_eq_of_ok (ask_eq hget)
      rcases hput.returning r with ⟨x, w', hrun, ⟨rfl, -, s, -, hdone⟩, hnone⟩ | hfailed
      · exact .inl ⟨x, w', hrest.trans hrun, ⟨rfl, hdone⟩, hnone⟩
      · rw [← hrest] at hfailed
        exact .inr hfailed

/-- A store of which no file can be read. -/
def garbled : World := .of { Directory.empty (.clear "store") with
  records := [("main-1", [0x7B])]
  index := some [0xFF]
  pointer := some [0x7B] }

/-- Nothing becomes of a record that is to be the baseline of a store with a damaged pointer, nor of
the promotion of a damaged record. -/
theorem put_promote_all_or_nothing_garbled :
    garbled.store.site.defects = [] ∧ garbled.store.temp = none ∧
      (∃ f w', put .sample (.text Slot.baseline.text) garbled = (.error f, w') ∧
        w'.store = garbled.store) ∧
      ∃ f w', promote (.text "main-1") garbled = (.error f, w') ∧ w'.store = garbled.store := by
  obtain ⟨hput, hpromote⟩ := put_promote_all_or_nothing (w := garbled) rfl rfl
  refine ⟨rfl, rfl, ?_, ?_⟩
  · rcases hput .sample (.text Slot.baseline.text) with ⟨x, w', hrun, -⟩ | ⟨f, w', hrun, hsame, -⟩
    · cases hrun
    · exact ⟨f, w', hrun, hsame⟩
  · rcases hpromote (.text "main-1") with ⟨r, w', hrun, -⟩ | ⟨f, w', hrun, hsame, -⟩
    · cases hrun
    · exact ⟨f, w', hrun, hsame⟩

end Act

end ProofLedger
