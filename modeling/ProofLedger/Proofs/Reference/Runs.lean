import ProofLedger.Proofs.Reference.Job

/-!
# Runs of the reference prover, one after another

A store that was empty, and runs with the reference prover and oracle (`Job`) into it, one after
another: `runs_smooth` says that every one of them ends well, and what the store answers after it.

`Ready` is what the runs keep from one to the next. It holds a store of older records together
with a clock that will go on ticking, since a run finds a new name for its record only where the
clock shows a new time: `Ready.step` is one run, and `Ready.run` is the induction.
-/

namespace ProofLedger

open Directory

namespace Reference

variable {threshold : Threshold} {t : Instruments} {w : World} {l : List ProofRecord}

/-- So many readings of the clock, from a first one: times with a known distance from UTC, each
within the calendar there and later than the one before. -/
structure Ticking (t : Instruments) (first count : Nat) : Prop where
  shows : ∀ k < count, ∃ m u, t.clock (first + k) = .ok m ∧ m.isAware = true ∧ m.utc? = some u
  ascends : ∀ k m m', k + 1 < count → t.clock (first + k) = .ok m →
    t.clock (first + (k + 1)) = .ok m' → m.instant < m'.instant

/-- Each reading is later than all before it. -/
theorem Ticking.lt {first count : Nat} (h : Ticking t first count) {k : Nat} (n : Nat)
    (hn : k + n + 1 < count) {m' : Moment} (hm : t.clock (first + k) = .ok m)
    (hm' : t.clock (first + (k + n + 1)) = .ok m') : m.instant < m'.instant := by
  induction n generalizing m' with
  | zero => exact h.ascends k m m' hn hm hm'
  | succ n ih =>
    obtain ⟨m₁, u₁, hm₁, -⟩ := h.shows (k + n + 1) (by omega)
    exact Int.lt_trans (ih (by omega) hm₁) (h.ascends _ m₁ m' hn hm₁ hm')

/-- The readings that are left after some. -/
theorem Ticking.drop {first count : Nat} (n : Nat) (h : Ticking t first (n + count)) :
    Ticking t (first + n) count where
  shows k hk := by
    obtain ⟨m, u, hm⟩ := h.shows (n + k) (by omega)
    exact ⟨m, u, by rwa [Nat.add_assoc]⟩
  ascends k m m' hk hm hm' := by
    rw [Nat.add_assoc] at hm hm'
    exact h.ascends (n + k) m m' (by omega) hm hm'

/-- A world in which jobs can be done one after another: the records so far are from before the
readings that the jobs will take, two for each. -/
structure Ready (t : Instruments) (w : World) (l : List ProofRecord) (jobs : List Job) :
    Prop where
  tended : Tended w.store l
  storeFault : w.storeFault = none
  ticking : Ticking t w.clockReads (2 * jobs.length)
  later : ∀ x ∈ l, ∀ k < 2 * jobs.length, ∀ m, t.clock (w.clockReads + k) = .ok m →
    x.createdAt.instant < m.instant
  fair : ∀ j ∈ jobs, j.Fair
  first : l = [] → ∀ j ∈ jobs.head?, j.slot = .baseline
  /-- No name is too long for a file. -/
  short : ∀ k j m id, jobs[k]? = some j → t.clock (w.clockReads + 2 * k) = .ok m →
    Identity.derive j.label m = .ok id → isLongName id = false

/-- One job of those that can be done. -/
theorem Ready.step {q : Quantity} {j : Job} {jobs : List Job} (hthreshold : threshold.check = .ok q)
    (htimer : ∀ k, ((t.timer (k + 1)).sub (t.timer k)).isFinite = true)
    (h : Ready t w l (j :: jobs)) :
    ∃ o r w', j.Done (pipeline threshold) t w l o r w' ∧ r.input = j.input ∧
      Ready t w' (l ++ [r]) jobs := by
  have hcount : 2 * (j :: jobs).length = 2 + 2 * jobs.length := by
    rw [List.length_cons]
    omega
  have hticking : Ticking t w.clockReads (2 + 2 * jobs.length) := hcount ▸ h.ticking
  obtain ⟨m, u, hclock, haware, hutc⟩ := hticking.shows 0 (by omega)
  obtain ⟨m', u', hclock', haware', hutc'⟩ := hticking.shows 1 (by omega)
  obtain ⟨-, hinstant⟩ := Moment.instant_of_utc? hutc
  have hj : j.Fair := h.fair j List.mem_cons_self
  have hslot : l = [] → j.slot = .baseline := fun hnil => h.first hnil j rfl
  have hlater : ∀ x ∈ l, x.createdAt.instant < u.instant := fun x hx =>
    hinstant ▸ h.later x hx 0 (by omega) m hclock
  have hshort : isLongName (Identity.slug j.label ++ 45 :: u.stampText) = false :=
    h.short 0 j m _ rfl hclock (Identity.derive_eq haware hutc)
  obtain ⟨r, v, c, skipped, w₁, hsettling, hmade⟩ := exists_settling hthreshold h.tended
    h.storeFault hj hslot htimer hclock haware hutc hclock' haware' hutc' hlater hshort
  obtain ⟨o, w', hdone⟩ := hsettling.exists_done h.tended hslot
  have hreads : w'.clockReads = w.clockReads + 2 := hdone.clockReads
  refine ⟨o, r, w', hdone, hmade.input, hdone.tended, hdone.storeFault, ?_, ?_, ?_, ?_, ?_⟩
  · rw [hreads]
    exact hticking.drop 2
  · intro x hx k hk m₁ hclock₁
    rw [hreads, Nat.add_assoc] at hclock₁
    rcases List.mem_append.mp hx with hx | hx
    · exact h.later x hx (2 + k) (by omega) m₁ hclock₁
    · -- the record of this job is from the first of its two readings
      rw [List.mem_singleton.mp hx, hmade.createdAt, hinstant]
      refine hticking.lt (1 + k) (by omega) hclock ?_
      rw [show 0 + (1 + k) + 1 = 2 + k by omega]
      exact hclock₁
  · exact fun x hx => h.fair x (List.mem_cons_of_mem j hx)
  · exact fun hnil => absurd hnil (List.append_ne_nil_of_right_ne_nil l (List.cons_ne_nil r []))
  · intro k x m₁ id hx hclock₁ hid
    rw [hreads, Nat.add_assoc, show 2 + 2 * k = 2 * (k + 1) by omega] at hclock₁
    exact h.short (k + 1) x m₁ id hx hclock₁ hid

/-- The induction on the jobs; `l` are the records from before them. -/
theorem Ready.run {q : Quantity} {jobs : List Job} (hthreshold : threshold.check = .ok q)
    (htimer : ∀ k, ((t.timer (k + 1)).sub (t.timer k)).isFinite = true) (h : Ready t w l jobs) :
    ∃ rs : List ProofRecord, rs.length = jobs.length ∧
      ∀ k j, jobs[k]? = some j → ∃ e o r,
        (passages (jobs.map (Job.event (pipeline threshold) t)) w)[k]? = some e ∧
        rs[k]? = some r ∧ r.input = j.input ∧ Smooth e o r ∧
        Tended e.after (l ++ rs.take (k + 1)) := by
  induction jobs generalizing w l with
  | nil => exact ⟨[], rfl, nofun⟩
  | cons j jobs ih =>
    obtain ⟨o, r, w', hdone, hinput, hready⟩ := h.step hthreshold htimer
    obtain ⟨rs, hlength, hrest⟩ := ih hready
    have hpassages : passages ((j :: jobs).map (Job.event (pipeline threshold) t)) w =
        ⟨j.event (pipeline threshold) t, some o, w.store, w'.store⟩ ::
          passages (jobs.map (Job.event (pipeline threshold) t)) w' := by
      rw [List.map_cons, passages, hdone.performs]
    rw [hpassages]
    refine ⟨r :: rs, congrArg (· + 1) hlength, fun k x hx => ?_⟩
    cases k with
    | zero =>
      cases hx
      exact ⟨_, o, r, rfl, rfl, hinput, hdone.smooth, hdone.tended⟩
    | succ k =>
      obtain ⟨e, o', r', he, hr, hinput', hsmooth', htended⟩ := hrest k x hx
      refine ⟨e, o', r', he, hr, hinput', hsmooth', ?_⟩
      rwa [List.append_assoc] at htended

/-- A pipeline that can be made has a threshold in order, if a double can hold it. -/
theorem check_of_make {p : Pipeline} (hmake : Pipeline.make prover oracle threshold = .ok p)
    (hdouble : ∀ n, threshold.value = .whole n → (Double.ofInt n).isFinite = true) :
    p = pipeline threshold ∧ threshold.check = .ok threshold.value := by
  unfold Pipeline.make at hmake
  split at hmake
  · next hpositive =>
    refine ⟨(Except.ok.inj hmake).symm, ?_⟩
    rw [Threshold.check, hpositive]
    cases hvalue : threshold.value with
    | whole n => simp [hdouble n hvalue]
    | double d => rfl
  · cases hmake
  · cases hmake

/-- Runs of the reference prover and oracle into a store that was empty, the first of them for the
baseline: each goes well, and after it the history lists one id for each run so far, in their
order, and the newest record is its own. The clock ticks, the timer goes on by finite amounts, a
double can hold the threshold, and no attempt on the files fails: the store is in order and no
name is too long. -/
theorem runs_smooth {p : Pipeline} {root : Text} {jobs : List Job}
    (hmake : Pipeline.make prover oracle threshold = .ok p)
    (hdouble : ∀ n, threshold.value = .whole n → (Double.ofInt n).isFinite = true)
    (hempty : w.store = .empty (.clear root)) (hfault : w.storeFault = none)
    (hticking : Ticking t w.clockReads (2 * jobs.length))
    (htimer : ∀ k, ((t.timer (k + 1)).sub (t.timer k)).isFinite = true)
    (hfair : ∀ j ∈ jobs, j.Fair) (hfirst : ∀ j ∈ jobs.head?, j.slot = .baseline)
    (hshort : ∀ k j m id, jobs[k]? = some j → t.clock (w.clockReads + 2 * k) = .ok m →
      Identity.derive j.label m = .ok id → isLongName id = false) :
    ∃ rs : List ProofRecord, rs.length = jobs.length ∧
      ∀ k j, jobs[k]? = some j → ∃ e o r, (passages (jobs.map (Job.event p t)) w)[k]? = some e ∧
        rs[k]? = some r ∧ r.input = j.input ∧ Smooth e o r ∧
        e.after.list .history = .ok ((names (rs.take (k + 1))).map .text) ∧
        (names (rs.take (k + 1))).Nodup ∧ e.after.latest .history = .ok r := by
  obtain ⟨rfl, hthreshold⟩ := check_of_make hmake hdouble
  have hready : Ready t w [] jobs :=
    { tended := hempty ▸ tended_empty root, storeFault := hfault, ticking := hticking
      later := nofun, fair := hfair, first := fun _ => hfirst, short := hshort }
  obtain ⟨rs, hlength, hruns⟩ := hready.run hthreshold htimer
  refine ⟨rs, hlength, fun k j hj => ?_⟩
  obtain ⟨e, o, r, he, hr, hinput, hsmooth, htended⟩ := hruns k j hj
  rw [List.nil_append] at htended
  refine ⟨e, o, r, he, hr, hinput, hsmooth, htended.list_history, htended.ledger.nodup, ?_⟩
  have htake : rs.take (k + 1) = rs.take k ++ [r] := by
    rw [List.take_add_one, hr]
    rfl
  exact (htake ▸ htended).latest_history

theorem utc_within_day : ∀ o ∈ some (0 : Int), o.natAbs < Calendar.daySpan := by
  intro o ho
  cases ho
  decide

/-- So many microseconds after the calendar starts, in UTC. -/
def sinceStart (k : Nat) (h : k < Calendar.endOfTime) : Moment := ⟨k, some 0, h, utc_within_day⟩

theorem utc?_sinceStart {k : Nat} (h : k < Calendar.endOfTime) :
    (sinceStart k h).utc? = some (sinceStart k h) := by
  have hbounds : 0 ≤ (sinceStart k h).instant ∧ (sinceStart k h).instant < Calendar.endOfTime ∧
      ∀ o ∈ some (0 : Int), o.natAbs < Calendar.daySpan := by
    refine ⟨?_, ?_, utc_within_day⟩
    · simp only [sinceStart, Moment.instant, Option.getD_some]
      omega
    · simp only [sinceStart, Moment.instant, Option.getD_some]
      omega
  rw [Moment.utc?, Moment.make?, dif_pos hbounds]
  simp [sinceStart, Moment.instant]

/-- A clock that starts with the calendar and goes on by a microsecond with each reading, and a
timer that stands still. -/
def counting : Instruments where
  clock k := if h : k < Calendar.endOfTime then .ok (sinceStart k h) else .error .outOfRange
  timer _ := .zero

theorem clock_counting {k : Nat} (h : k < Calendar.endOfTime) :
    counting.clock k = .ok (sinceStart k h) := dif_pos h

/-- The clock ticks until the calendar ends. -/
theorem ticking_counting {first count : Nat} (h : first + count ≤ Calendar.endOfTime) :
    Ticking counting first count where
  shows k hk := by
    have hlt : first + k < Calendar.endOfTime := by omega
    exact ⟨_, _, clock_counting hlt, rfl, utc?_sinceStart hlt⟩
  ascends k m m' hk hm hm' := by
    rw [clock_counting (by omega)] at hm hm'
    cases hm
    cases hm'
    simp only [sinceStart, Moment.instant, Option.getD_some]
    omega

/-- A job for the baseline, and one of another label with the same input that only goes into the
history. -/
def sampleJobs : List Job :=
  let input : ProveInput :=
    { ProofRecord.sample.input with length := 65 }
  [⟨input, "main", [], .baseline, false⟩, ⟨input, "my branch", "test", .history, true⟩]

theorem runs_smooth_sample :
    let w := World.of (.empty (.clear "store"))
    Pipeline.make prover oracle .default = .ok (pipeline .default) ∧
    w.store = .empty (.clear "store") ∧ w.storeFault = none ∧
    Ticking counting w.clockReads (2 * sampleJobs.length) ∧
    (∀ k, ((counting.timer (k + 1)).sub (counting.timer k)).isFinite = true) ∧
    (∀ j ∈ sampleJobs, j.Fair) ∧ (∀ j ∈ sampleJobs.head?, j.slot = .baseline) ∧
    ∃ rs : List ProofRecord, rs.length = sampleJobs.length ∧ ∀ k j, sampleJobs[k]? = some j →
      ∃ e o r,
        (passages (sampleJobs.map (Job.event (pipeline .default) counting)) w)[k]? = some e ∧
        rs[k]? = some r ∧ r.input = j.input ∧ Smooth e o r ∧
        e.after.list .history = .ok ((names (rs.take (k + 1))).map .text) ∧
        (names (rs.take (k + 1))).Nodup ∧ e.after.latest .history = .ok r := by
  intro w
  have hpositive : Threshold.default.isNotPositive = false := by decide +kernel
  have hmake : Pipeline.make prover oracle .default = .ok (pipeline .default) := by
    rw [Pipeline.make, hpositive]
    rfl
  have hticking : Ticking counting w.clockReads (2 * sampleJobs.length) :=
    ticking_counting (by decide)
  have htimer : ∀ k, ((counting.timer (k + 1)).sub (counting.timer k)).isFinite = true := by
    have hzero : (Double.zero.sub .zero).isFinite = true := by decide +kernel
    exact fun _ => hzero
  have hfair : ∀ j ∈ sampleJobs, j.Fair := by
    intro j hj
    rcases List.mem_pair.mp hj with rfl | rfl
    · exact ⟨by decide, by decide, by decide⟩
    · exact ⟨by decide, by decide, by decide⟩
  have hfirst : ∀ j ∈ sampleJobs.head?, j.slot = .baseline := by
    intro j hj
    cases hj
    rfl
  have hshort : ∀ k j m id, sampleJobs[k]? = some j →
      counting.clock (w.clockReads + 2 * k) = .ok m → Identity.derive j.label m = .ok id →
      isLongName id = false := by
    intro k j m id hj hm hid
    rcases k with _ | _ | k
    · rw [clock_counting (by decide)] at hm
      cases hj
      cases hm
      rw [Identity.derive_eq rfl (utc?_sinceStart _)] at hid
      cases hid
      decide +kernel
    · rw [clock_counting (by decide)] at hm
      cases hj
      cases hm
      rw [Identity.derive_eq rfl (utc?_sinceStart _)] at hid
      cases hid
      decide +kernel
    · cases hj
  exact ⟨hmake, rfl, rfl, hticking, htimer, hfair, hfirst,
    runs_smooth hmake nofun rfl rfl hticking htimer hfair hfirst hshort⟩

end Reference

end ProofLedger
