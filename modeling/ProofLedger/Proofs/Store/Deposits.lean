import ProofLedger.Proofs.Store.Refinement

/-!
# Reading back what was put

A store that was empty, after calls that only put. It keeps a file and an index line for each
record that was accepted (`stocks_runCalls`, from `Call.stocks_put` for one put), so each of them
is got under its name. `ReadsBack` says what else is promised of a record that was put: it is
listed, once, and every name of the list can be got. `put_reads_back` is the condition for this: no
name that was accepted ends with a line feed. Such names may be stored, and a list of the history
shows them without their line feed (`put_loses_line_feed`).
-/

namespace ProofLedger

open Directory Identity

/-- All that is promised of a record that was put. -/
structure ReadsBack (r : ProofRecord) (d : Directory) : Prop where
  found : d.get r.id.val = .ok r
  /-- The history lists the record and no name twice, and every name it lists can be got. -/
  listed : ∃ ids : List Text, d.list .history = .ok (ids.map .text) ∧ r.id.val ∈ ids ∧
    ids.Nodup ∧ ∀ id ∈ ids, ∃ r', d.get id = .ok r'

namespace Directory

variable {d : Directory} {l : List ProofRecord}

theorem Stocks.list (h : Stocks d l) :
    d.list .history = .ok (((names l).map bare).map .text) := by
  rw [Directory.list, h.history]
  rfl

/-- A name without a line feed at its end is listed as it is. -/
theorem bare_eq_self {id : Text} (h : id.getLast? ≠ some 10) : bare id = id := if_neg h

/-- A name that is got and one that loses its line feed to it are listed under one name. -/
theorem Stocks.eq_of_bare (h : Stocks d l) (hnodup : ((names l).map bare).Nodup)
    {x : ProofRecord} (hx : x ∈ l) {r' : ProofRecord} (hget : d.get (bare x.id.val) = .ok r') :
    bare x.id.val = x.id.val := by
  obtain ⟨hr', hid⟩ := h.mem_of_get hget
  have hexact : IsExact (bare x.id.val) := isStorable_iff.mp (h.storable x hx)
  have hlisted : bare r'.id.val = bare x.id.val := by rw [hid, hexact.bare_eq]
  have hsame : r'.id.val = x.id.val :=
    List.inj_on_of_nodup_map hnodup (List.mem_map_of_mem hr') (List.mem_map_of_mem hx) hlisted
  rw [← hid, hsame]

/-- A record of the stock reads back if and only if no name of the stock has a line feed to
lose. -/
theorem Stocks.readsBack_iff (h : Stocks d l) {r : ProofRecord} (hr : r ∈ l) :
    ReadsBack r d ↔ ∀ x ∈ l, x.id.val.getLast? ≠ some 10 := by
  constructor
  · rintro ⟨-, ids, hlist, -, hnodup, hget⟩ x hx hend
    rw [h.list] at hlist
    have hids : (names l).map bare = ids :=
      List.map_injective_iff.mpr (fun _ _ => Data.text.inj) (Except.ok.inj hlist)
    subst hids
    obtain ⟨r', hr'⟩ := hget _ (List.mem_map_of_mem (List.mem_map_of_mem hx))
    have hbare := h.eq_of_bare hnodup hx hr'
    -- What is left of the name is shorter than the name.
    obtain ⟨t, ht⟩ := List.getLast?_eq_some_iff.mp hend
    rw [bare, if_pos hend, ht, List.dropLast_concat] at hbare
    exact List.cons_ne_nil 10 [] (List.self_eq_append_right.mp hbare)
  · intro hends
    have hbare : (names l).map bare = names l := by
      have hsame : ∀ id ∈ names l, bare id = id := by
        intro id hid
        obtain ⟨x, hx, rfl⟩ := List.mem_map.mp hid
        exact bare_eq_self (hends x hx)
      rw [List.map_congr_left hsame, List.map_id']
    refine ⟨h.get_of_mem hr, names l, ?_, List.mem_map_of_mem hr, h.nodup, fun id hid => ?_⟩
    · rw [h.list, hbare]
    · obtain ⟨x, hx, rfl⟩ := List.mem_map.mp hid
      exact ⟨x, h.get_of_mem hx⟩

end Directory

/-- What one put keeps, however it ends. -/
theorem Call.stocks_put (t : Instruments) {l : List ProofRecord} {w : World}
    (h : Stocks w.store l) (r : ProofRecord) (slot : Slot) :
    Stocks (perform t (.put r slot) w).2.store
      (enter l (.put r slot) (perform t (.put r slot) w).1) := by
  obtain ⟨w', -, ⟨hrun, hputs⟩ | ⟨f, hrun, hkeeps⟩⟩ := put_cases t h.clear r slot
  · rw [hrun]
    cases slot with
    | history => exact h.stores hputs
    | baseline => exact h.puts hputs
  · rw [hrun, enter_error]
    exact h.keeps hkeeps

/-- What any puts keep, one after another. -/
theorem stocks_runCalls (t : Instruments) (puts : List (ProofRecord × Slot))
    {l : List ProofRecord} {w : World} (h : Stocks w.store l) :
    Stocks (runCalls t (puts.map fun p => .put p.1 p.2) (l, w)).2.store
      (runCalls t (puts.map fun p => .put p.1 p.2) (l, w)).1 := by
  induction puts generalizing l w with
  | nil => exact h
  | cons p puts ih => exact ih (Call.stocks_put t h p.1 p.2)

/-- A record whose put has succeeded is in the ledger. -/
theorem Call.mem_enter_put {l : List ProofRecord} {r : ProofRecord} {slot : Slot}
    {ids : List Text} : r ∈ enter l (.put r slot) (.ok ids) := by
  cases slot with
  | history => exact List.mem_append_right l List.mem_cons_self
  | baseline =>
    rw [enter, including]
    split
    · next hmem => exact hmem
    · exact List.mem_append_right l List.mem_cons_self

/-- A record that was put after any other puts is got back as it is, and the history lists every
name that was accepted, without a line feed at its end. So all that is promised of the record holds
if and only if no accepted name has one. -/
theorem put_reads_back (t : Instruments) {root : Text} {w : World}
    (hempty : w.store = .empty (.clear root)) (puts : List (ProofRecord × Slot)) (r : ProofRecord)
    (slot : Slot) :
    let s := runCalls t (puts.map fun p => .put p.1 p.2) ([], w)
    let out := Call.perform t (.put r slot) s.2
    let accepted := Call.enter s.1 (.put r slot) out.1
    out.1 = .ok [] →
      out.2.store.get r.id.val = .ok r ∧ (names accepted).Nodup ∧
        out.2.store.list .history = .ok (((names accepted).map bare).map .text) ∧
        (ReadsBack r out.2.store ↔ ∀ x ∈ accepted, x.id.val.getLast? ≠ some 10) := by
  intro s out accepted hok
  have hstart : Stocks w.store [] := hempty ▸ stocks_empty root
  have hstocks : Stocks out.2.store accepted :=
    Call.stocks_put t (stocks_runCalls t puts hstart) r slot
  have hr : r ∈ accepted := by
    simp only [accepted, hok]
    exact Call.mem_enter_put
  exact ⟨hstocks.get_of_mem hr, hstocks.nodup, hstocks.list, hstocks.readsBack_iff hr⟩

/-- A store that is empty takes a record of any name that may be stored. -/
theorem put_blank {r : ProofRecord} (hname : isStorable r.id.val = true)
    (hshort : isLongName r.id.val = false) (hfinite : r.duration.val.isFinite = true)
    (hfits : Number.fits r.input.length = true) (htexts : ∀ t ∈ r.texts, t.Scalar) :
    (Call.perform still (.put r .history) (.of (.empty (.clear "store")))).1 = .ok [] := by
  have hplan := (stocks_empty "store").putHistory_ok_iff hname hshort
  refine (Call.put_history_ok_iff still rfl rfl r).mpr (hplan.mpr ⟨List.not_mem_nil, ?_⟩)
  exact exists_documentOctets hfinite hfits htexts

theorem put_reads_back_sample :
    let w := World.of (.empty (.clear "store"))
    let out := Call.perform still (.put .sample .history) w
    out.1 = .ok [] ∧ ReadsBack .sample out.2.store := by
  intro w out
  have hok : out.1 = .ok [] :=
    put_blank (by decide) (by decide) rfl (ProofRecord.fits_of_lt (by decide)) (by decide)
  obtain ⟨-, -, -, hreads⟩ := put_reads_back still (w := w) rfl [] .sample .history hok
  refine ⟨hok, hreads.mpr fun x hx => ?_⟩
  have hx : x ∈ Call.enter [] (.put .sample .history) out.1 := hx
  rw [hok] at hx
  cases List.mem_singleton.mp hx
  decide

/-- The sample under a name that ends with a line feed. -/
def ProofRecord.brokenName : ProofRecord :=
  { ProofRecord.sample with id := ⟨"main-1\n", by decide⟩ }

/-- A store accepts it, and does not list it. -/
theorem put_loses_line_feed :
    let out := Call.perform still (.put .brokenName .history) (.of (.empty (.clear "store")))
    out.1 = .ok [] ∧ out.2.store.list .history = .ok [.text "main-1"] ∧
      ¬ ReadsBack .brokenName out.2.store := by
  intro out
  have hok : out.1 = .ok [] :=
    put_blank (by decide) (by decide) rfl (ProofRecord.fits_of_lt (by decide)) (by decide)
  have hstocks : Stocks out.2.store (Call.enter [] (.put .brokenName .history) out.1) :=
    Call.stocks_put still (stocks_empty "store") .brokenName .history
  rw [hok] at hstocks
  refine ⟨hok, hstocks.list, fun hreads => ?_⟩
  have hends := (hstocks.readsBack_iff Call.mem_enter_put).mp hreads
  exact hends .brokenName Call.mem_enter_put rfl

end ProofLedger
