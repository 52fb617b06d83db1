import ProofLedger.Proofs.Store.Pointer

/-!
# What a prune deletes

`prune_deletes_expired`: after any calls to a store that was empty, a prune at a time with a known
distance from UTC comes to its end and returns the names of the records that were made before its
cutoff, in the order of the history and without the baseline where that is kept. The names that are
left keep their order and their files, nothing is found under those that went, and the pointer is
unset if the baseline went. A second prune at that time deletes nothing.

`Expires` says all this of the directories before and after, and `Represents.expires` proves it from
the ledger. Age is told by the instant of a record, which is its wall time less the distance of its
clock from UTC: how the timestamp was written has no part in it.
-/

namespace ProofLedger

open Directory

/-! ## The cutoff -/

/-- A moment some microseconds later is at the instant so much later, on a clock as far from UTC. -/
theorem Moment.instant_of_add? {m m' : Moment} {micros : Int} (h : m.add? micros = some m') :
    m'.instant = m.instant + micros ∧ m'.isAware = m.isAware := by
  rw [add?, make?] at h
  split at h
  · next hbounds =>
    obtain rfl := Option.some.inj h
    refine ⟨?_, rfl⟩
    simp only [instant]
    omega
  · cases h

namespace Directory

variable {d d' : Directory} {l : List ProofRecord} {b : Option Text} {cutoff : Moment}

/-- Whether the record under a name was made before an instant. -/
def madeBefore (d : Directory) (instant : Int) (id : Text) : Bool :=
  (d.get id).toOption.any fun r => decide (r.createdAt.instant < instant)

theorem madeBefore_of_get {id : Text} {r : ProofRecord} (hget : d.get id = .ok r) (instant : Int) :
    d.madeBefore instant id = decide (r.createdAt.instant < instant) := by
  rw [madeBefore, hget]
  rfl

/-- The names that have expired are gone, and nothing else has changed. The history lists `ids` and
the pointer names `b` before. -/
structure Expires (d : Directory) (ids : List Text) (b : Option Text) (horizon : Int) (keep : Bool)
    (gone : List Text) (d' : Directory) : Prop where
  listed : d.list .history = .ok (ids.map .text)
  aimed : Targets d b
  recorded : ∀ id ∈ ids, ∃ r, d.get id = .ok r
  /-- The names that go are those of the records made before the horizon, in the order of the
  history, without the baseline where it is kept. -/
  expired : gone = ids.filter fun id => d.madeBefore horizon id && !(keep && b == some id)
  /-- A record no younger than one that goes goes too, or is kept as the baseline. -/
  ordered : ∀ r r', r.id.val ∈ ids → d.get r.id.val = .ok r → r'.id.val ∈ gone →
    d.get r'.id.val = .ok r' → r.createdAt.instant ≤ r'.createdAt.instant →
    r.id.val ∈ gone ∨ keep = true ∧ b = some r.id.val
  /-- The other names are listed in their old order. -/
  remaining : d'.list .history = .ok ((ids.filter fun id => !gone.contains id).map .text)
  unchanged : ∀ id, id ∉ gone → d'.file? id = d.file? id ∧ d'.get id = d.get id
  notFound : ∀ id ∈ gone, (∃ e : LedgerError, d'.get id = .error (.ledger e) ∧
    e.code = .notFound) ∧ d'.contains id = .ok false
  /-- The pointer is unset if the name it held is gone. -/
  pointer : Targets d' (b.filter fun id => !gone.contains id)

/-- What is found under a name is told by its file. -/
theorem get_eq_of_file? (hsite : d'.site = d.site) {id : Text} (hfile : d'.file? id = d.file? id) :
    d'.get id = d.get id := by
  rw [get, get, content, content, checkLength, checkLength, hsite, hfile]

/-! ## On a ledger -/

theorem names_without (l : List ProofRecord) (deleted : List Text) :
    names (without l deleted) = (names l).filter fun id => !deleted.contains id := by
  rw [without, names, names, List.filter_map]
  rfl

section Ledger

variable (h : Represents d l)
include h

/-- The names that go, told by what the directory holds under the names of its history. -/
theorem Represents.going_eq (cutoff : Moment) (kept : Option Text) :
    going l cutoff kept =
      (names l).filter fun id => d.madeBefore cutoff.instant id && kept != some id := by
  rw [going, names, names, List.filter_map]
  refine congrArg _ (List.filter_congr fun r hr => ?_)
  rw [Function.comp_apply, madeBefore_of_get (h.get_of_mem hr)]
  rfl

/-- Files whose names stay are as they were. -/
theorem Represents.file?_of_without {gone : List Text} (h' : Represents d' (without l gone))
    {id : Text} (hid : id ∉ gone) : d'.file? id = d.file? id := by
  by_cases hmem : id ∈ names l
  · obtain ⟨r, hr, rfl⟩ := List.mem_map.mp hmem
    obtain ⟨content, hcontent⟩ := h.written r hr
    have hstays : r ∈ without l gone := List.mem_filter.mpr ⟨hr, by simpa using hid⟩
    rw [h.file?_of_mem hr hcontent, h'.file?_of_mem hstays hcontent]
  · have hnot : id ∉ names (without l gone) := by
      rw [names_without]
      exact fun hid => hmem (List.mem_of_mem_filter hid)
    rw [h.file?_of_not_mem hmem, h'.file?_of_not_mem hnot]

/-- What a prune comes to when its cutoff can be compared with records: those that are old enough
drop out of the ledger, and the pointer goes with the record it names. -/
theorem Represents.pruned (hb : Targets d b) (haware : cutoff.isAware = true) (keep : Bool)
    {gone : List Text} (hgone : going l cutoff (if keep then b else none) = gone) :
    (d.pruneBefore cutoff keep).outcome = .ok gone ∧
      ((d.pruneBefore cutoff keep).final d).site = d.site ∧
      Represents ((d.pruneBefore cutoff keep).final d) (without l gone) ∧
      Targets ((d.pruneBefore cutoff keep).final d) (b.filter fun id => !gone.contains id) := by
  obtain ⟨current, hpointed, -⟩ := h.current
  have hname := hb.name_eq hpointed h
  have hnodup : gone.Nodup := hgone ▸ h.nodup_going cutoff _
  rw [h.pruneBefore_eq haware hpointed (by rw [hname]), hgone]
  split
  · next hempty =>
    have hnil : gone = [] := List.isEmpty_iff.mp hempty
    have hall : b.filter (fun id => !gone.contains id) = b := by
      rw [hnil]
      cases b <;> rfl
    refine ⟨by rw [hnil]; rfl, rfl, ?_, hall.symm ▸ hb⟩
    rw [hnil, without_nil]
    exact h
  · obtain ⟨hok, hforgets⟩ := forget_eq d.site (name? current) (names (without l gone)) hnodup d
    exact ⟨hok, hforgets.site, h.forget hpointed hnodup, Call.targets_forget h hb hpointed hnodup⟩

/-- What is left after a prune is not old enough for another at the same cutoff. -/
theorem Represents.going_without (cutoff : Moment) (kept : Option Text) :
    going (without l (going l cutoff kept)) cutoff kept = [] := by
  have hnone :
      ((l.filter fun r => !isDoomed cutoff kept r).filter (isDoomed cutoff kept)) = [] := by
    rw [List.filter_filter, List.filter_eq_nil_iff]
    simp
  rw [going, going, without_names_filter h, hnone]
  rfl

/-- A second prune does nothing. -/
theorem Represents.pruned_again (hb : Targets d b) (haware : cutoff.isAware = true) (keep : Bool) :
    ((d.pruneBefore cutoff keep).final d).pruneBefore cutoff keep = .done [] := by
  obtain ⟨-, -, hledger, htargets⟩ := h.pruned hb haware keep rfl
  obtain ⟨current, hpointed, -⟩ := hledger.current
  have hkept : (if keep then name? current else none) = if keep then b else none := by
    cases keep with
    | false => rfl
    | true =>
      rw [htargets.name_eq hpointed hledger]
      exact filter_of_stays (any_going_kept l cutoff b)
  rw [hledger.pruneBefore_eq haware hpointed hkept, h.going_without]
  rfl

/-- The history lists the names of the ledger. -/
theorem Represents.listed : d.list .history = .ok ((names l).map .text) := by
  rw [list, h.history]
  rfl

/-- Everything that a prune of a ledger returns and leaves behind. -/
theorem Represents.expires (hb : Targets d b) (haware : cutoff.isAware = true) (keep : Bool) :
    ∃ gone, (d.pruneBefore cutoff keep).outcome = .ok gone ∧
      Expires d (names l) b cutoff.instant keep gone ((d.pruneBefore cutoff keep).final d) := by
  obtain ⟨hok, hsite, hledger, htargets⟩ := h.pruned hb haware keep rfl
  have hexpired : going l cutoff (if keep then b else none) =
      (names l).filter fun id => d.madeBefore cutoff.instant id && !(keep && b == some id) := by
    rw [h.going_eq]
    refine congrArg (fun p => (names l).filter p) (funext fun id => ?_)
    cases keep <;> rfl
  generalize (d.pruneBefore cutoff keep).final d = d' at hsite hledger htargets ⊢
  generalize going l cutoff (if keep then b else none) = gone at hok hledger htargets hexpired ⊢
  refine ⟨gone, hok, h.listed, hb, ?_, hexpired, ?_, ?_, ?_, ?_, htargets⟩
  · intro id hid
    obtain ⟨r, hr, rfl⟩ := List.mem_map.mp hid
    exact ⟨r, h.get_of_mem hr⟩
  · intro r r' hr hfound hgone hfound' hle
    rw [hexpired, List.mem_filter, madeBefore_of_get hfound'] at hgone
    rw [hexpired, List.mem_filter, madeBefore_of_get hfound]
    have hbefore : r'.createdAt.instant < cutoff.instant := by
      have hboth := hgone.2
      rw [Bool.and_eq_true, decide_eq_true_iff] at hboth
      exact hboth.1
    have hold : decide (r.createdAt.instant < cutoff.instant) = true :=
      decide_eq_true (by omega)
    cases hkept : keep && b == some r.id.val with
    | true => exact .inr (by simpa using hkept)
    | false => exact .inl ⟨hr, by rw [hold]; rfl⟩
  · rw [← names_without]
    exact hledger.listed
  · intro id hid
    have hfile := h.file?_of_without hledger hid
    exact ⟨hfile, get_eq_of_file? hsite hfile⟩
  · intro id hid
    have hmem : id ∈ names l := List.mem_of_mem_filter (hexpired ▸ hid)
    obtain ⟨r, hr, rfl⟩ := List.mem_map.mp hmem
    have hnot : r.id.val ∉ names (without l gone) := by
      rw [names_without, List.mem_filter]
      simp [hid]
    have hshort := (h.named r hr).short
    exact ⟨hledger.get_of_not_mem hnot fun _ => hshort,
      hledger.contains_of_not_mem hnot fun _ => hshort⟩

end Ledger

end Directory

/-! ## After any calls -/

namespace Call

/-- The time that a prune goes by: the one it is told, or what the clock shows next. -/
def timeOf (t : Instruments) (w : World) : Option Moment → Except TimeFault Moment
  | some now => .ok now
  | none => t.clock w.clockReads

/-- The cutoff of a prune. -/
def cutoff (t : Instruments) (w : World) (now : Option Moment) (age : Int) :
    Except Failure Moment :=
  ((timeOf t w now).mapError fun f => .fault (.time f)).bind (cutoffOf · age)

/-- A prune finds out its cutoff and then takes the lock; reading the clock touches no file. -/
theorem perform_prune (t : Instruments) (w : World) (now : Option Moment) (age : Int)
    (keep : Bool) : ∃ read : World, read.store = w.store ∧
      perform t (.prune now age keep) w =
        (Act.lift (cutoff t w now age) >>= fun c => Act.locking (·.pruneBefore c keep)) read := by
  cases now with
  | some now => exact ⟨w, rfl, rfl⟩
  | none =>
    let read : World := { w with clockReads := w.clockReads + 1 }
    refine ⟨read, rfl, ?_⟩
    cases hclock : t.clock w.clockReads with
    | error f =>
      have hread : Act.readClock t w = (.error (.fault (.time f)), read) := by
        rw [Act.readClock, hclock]
        rfl
      have hcutoff : cutoff t w none age = .error (.fault (.time f)) := by
        rw [cutoff, timeOf, hclock]
        rfl
      rw [hcutoff]
      exact Act.bind_eq_of_error hread
    | ok m =>
      have hread : Act.readClock t w = (.ok m, read) := by
        rw [Act.readClock, hclock]
        rfl
      have hcutoff : cutoff t w none age = cutoffOf m age := by
        rw [cutoff, timeOf, hclock]
        rfl
      rw [hcutoff]
      exact Act.bind_eq_of_ok hread

variable {t : Instruments} {w : World} {now : Option Moment} {age : Int}

theorem cutoff_of_add? {m c : Moment} (hnow : timeOf t w now = .ok m)
    (hadd : m.add? (-age) = some c) : cutoff t w now age = .ok c := by
  rw [cutoff, hnow]
  simp only [Except.mapError, Except.bind, cutoffOf, hadd]

/-- A prune that has a cutoff and can take the lock is carried out. -/
theorem carries_prune {c : Moment} (hcutoff : cutoff t w now age = .ok c)
    (hlock : w.store.site.isFolder lockName = false) (keep : Bool) :
    ∃ w', perform t (.prune now age keep) w = ((w.store.pruneBefore c keep).outcome, w') ∧
      w'.store = (w.store.pruneBefore c keep).final w.store := by
  obtain ⟨read, hstore, hrun⟩ := perform_prune t w now age keep
  rw [← hstore] at hlock ⊢
  obtain ⟨w', hcarries⟩ := Act.carries_locking hlock (·.pruneBefore c keep)
  exact ⟨w', hrun.trans ((Act.bind_eq_of_ok (Act.lift_eq hcutoff)).trans hcarries.run),
    hcarries.store⟩

end Call

/-- After any calls to a store that was empty, a prune with an aware cutoff in the calendar returns
the names of the records made before it, in the order of the history and without the baseline where
that is kept, and these are all that goes. The same prune, once more, returns nothing and changes
nothing. -/
theorem prune_deletes_expired (t : Instruments) {root : Text} {w : World}
    (hempty : w.store = .empty (.clear root)) (hfault : w.storeFault = none) (calls : List Call)
    (hcalls : ∀ c ∈ calls, c.Exact) :
    let s := (runCalls t calls ([], w)).2
    ∀ (now : Option Moment) (age : Int) (keep : Bool) (m cutoff : Moment),
      Call.timeOf t s now = .ok m → m.isAware = true → m.add? (-age) = some cutoff →
      ∃ ids b gone s', (Call.prune now age keep).perform t s = (.ok gone, s') ∧
        Expires s.store ids b (m.instant - age) keep gone s'.store ∧
        ∃ s'', (Call.prune (some m) age keep).perform t s' = (.ok [], s'') ∧
          s''.store = s'.store := by
  intro s now age keep m cutoff hnow haware hcutoff
  have hstart : Kept [] w := ⟨hempty ▸ represents_empty root, hfault⟩
  have h := (kept_runCalls_of_exact t calls hstart hcalls).represents
  obtain ⟨hlater, haware'⟩ := Moment.instant_of_add? hcutoff
  have hhorizon : cutoff.instant = m.instant - age := by omega
  rw [haware] at haware'
  obtain ⟨b, hb⟩ := h.exists_targets
  obtain ⟨s', hrun, hstore⟩ :=
    Call.carries_prune (Call.cutoff_of_add? hnow hcutoff) (h.isFolder lockName) keep
  obtain ⟨gone, hok, hexpires⟩ := h.expires hb haware' keep
  obtain ⟨-, -, hledger, -⟩ := h.pruned hb haware' keep rfl
  have hagain := h.pruned_again hb haware' keep
  rw [← hstore] at hexpires hledger hagain
  have htold : Call.cutoff t s' (some m) age = .ok cutoff := Call.cutoff_of_add? rfl hcutoff
  obtain ⟨s'', hrun', hstore'⟩ := Call.carries_prune htold (hledger.isFolder lockName) keep
  rw [hagain] at hrun' hstore'
  rw [hhorizon] at hexpires
  exact ⟨_, b, gone, s', hrun.trans (by rw [hok]), hexpires, s'', hrun', hstore'⟩

/-- The baseline is older than the cutoff, and goes where it is not kept. -/
theorem prune_deletes_expired_settled :
    let w := World.of (.empty (.clear "store"))
    let s := (runCalls still Call.settling ([], w)).2
    let m := ProofRecord.sample.createdAt
    ∃ cutoff, (∀ c ∈ Call.settling, c.Exact) ∧ Call.timeOf still s none = .ok m ∧
      m.isAware = true ∧ m.add? 1 = some cutoff ∧
      ∃ ids b gone s', (Call.prune none (-1) false).perform still s = (.ok gone, s') ∧
        Expires s.store ids b (m.instant - -1) false gone s'.store := by
  intro w s m
  obtain ⟨cutoff, hcutoff⟩ : ∃ cutoff, m.add? (-(-1)) = some cutoff :=
    Option.isSome_iff_exists.mp (by decide)
  obtain ⟨ids, b, gone, s', hrun, hexpires, -⟩ :=
    prune_deletes_expired still (w := w) rfl rfl Call.settling Call.exact_settling none (-1) false
      m cutoff rfl rfl hcutoff
  exact ⟨cutoff, Call.exact_settling, rfl, rfl, hcutoff, ids, b, gone, s', hrun, hexpires⟩

end ProofLedger
