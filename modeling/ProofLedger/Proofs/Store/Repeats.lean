import ProofLedger.Proofs.Store.Expiry
import ProofLedger.Proofs.Store.Whole

/-!
# Names that an index has twice

An index that was edited by hand, or merged from two, may list a name twice. A prune reads every
record before its first step, and from there on one thing alone can go wrong: a name that goes and
is listed twice has no file when its turn comes again. `prune_all_or_nothing_iff`: on every store,
whatever its files hold, a prune does the whole of its work or nothing at all if and only if the
names that are to go are distinct. Where they are not, `BreaksOff` says what is left behind: the
index is written anew, the pointer may be unset, and the files before the repeated name are gone.
-/

namespace ProofLedger

namespace Directory

/-! ## Before the first step -/

/-- What a prune finds out before its first step. -/
structure Survey where
  /-- The name that the pointer holds. -/
  current : Option Text
  kept : List Text
  deleted : List Text

/-- Reads the pointer, the index, and the record of every name in it. -/
def survey (d : Directory) (cutoff : Moment) (keep : Bool) : Except Failure Survey := do
  let current ← d.pointed
  let ids ← d.history
  let marks ← d.doomed cutoff (if keep then name? current else none) ids
  let marked := ids.zip marks
  pure ⟨name? current, (marked.filter (!·.2)).map (·.1), (marked.filter (·.2)).map (·.1)⟩

/-- What a survey asks for: names are forgotten, if any are to go. -/
def Survey.plan (s : Survey) (site : Site) : Plan (List Text) :=
  if s.deleted.isEmpty then .done [] else forget site s.current s.kept s.deleted

/-- A prune surveys the store, and then it does what the survey asks for. -/
theorem pruneBefore_eq_survey (d : Directory) (cutoff : Moment) (keep : Bool) :
    d.pruneBefore cutoff keep = .after (d.survey cutoff keep) (·.plan d.site) := by
  unfold pruneBefore survey
  cases d.pointed with
  | error f => rfl
  | ok current =>
    cases d.history with
    | error f => rfl
    | ok ids =>
      simp only [Plan.after_ok, bind, Except.bind]
      cases d.doomed cutoff (if keep then name? current else none) ids with
      | error f => rfl
      | ok marks => rfl

/-- Every name that is to go has a record file. -/
theorem hasFile_of_survey {d : Directory} {cutoff : Moment} {keep : Bool} {s : Survey}
    (h : d.survey cutoff keep = .ok s) {id : Text} (hid : id ∈ s.deleted) :
    d.hasFile id = true := by
  obtain ⟨current, -, h⟩ := bind_eq_ok h
  obtain ⟨ids, -, h⟩ := bind_eq_ok h
  obtain ⟨marks, hmarks, h⟩ := bind_eq_ok h
  obtain rfl := Except.ok.inj h
  obtain ⟨mark, hmark, rfl⟩ := List.mem_map.mp hid
  have hlisted : mark.1 ∈ ids := (List.of_mem_zip (List.mem_of_mem_filter hmark)).1
  cases hgoes : d.goes cutoff (if keep then name? current else none) mark.1 with
  | error f =>
    obtain ⟨f', hfail⟩ := exists_mapM_eq_error hlisted hgoes
    rw [doomed, hfail] at hmarks
    cases hmarks
  | ok old =>
    obtain ⟨r, hget, -⟩ := bind_eq_ok hgoes
    obtain ⟨content, hcontent, -⟩ := bind_eq_ok hget
    obtain ⟨-, -, hcontent⟩ := bind_eq_ok hcontent
    obtain ⟨-, -, hcontent⟩ := bind_eq_ok hcontent
    obtain ⟨-, -, hcontent⟩ := bind_eq_ok hcontent
    rw [hasFile]
    cases hfile : d.file? mark.1 with
    | some _ => rfl
    | none =>
      rw [hfile] at hcontent
      cases hcontent

/-! ## What becomes of the files -/

/-- What a survey asks for has been done. -/
def Survey.Done (s : Survey) (gone : List Text) (d d' : Directory) : Prop :=
  gone = s.deleted ∧ if s.deleted = [] then d' = d else Forgets s.current s.kept s.deleted d d'

/-- A prune has broken off at a name that came before: the files of the names before it are gone,
and the index and the pointer are as if all were. -/
structure BreaksOff (s : Survey) (id : Text) (d d' : Directory) : Prop where
  records : ∃ before after, s.deleted = before ++ id :: after ∧ before.Nodup ∧ id ∈ before ∧
    d'.records = d.records.filter fun e => !before.contains e.1
  index : d'.index = some (octets (indexText s.kept))
  pointer : d'.pointer = if s.current.any s.deleted.contains then none else d.pointer
  site : d'.site = d.site

/-- Names are removed up to the first that was removed before. -/
theorem removals_of_repeat (site : Site) {gone ids : List Text}
    (h : ¬(ids.Nodup ∧ ∀ id ∈ ids, id ∉ gone)) :
    ∃ before id after, ids = before ++ id :: after ∧ before.Nodup ∧ (∀ x ∈ before, x ∉ gone) ∧
      (id ∈ gone ∨ id ∈ before) ∧
      (removals site gone ids).outcome = .error (site.fault .missing (recordName id)) ∧
      (removals site gone ids).steps = before.map .removeRecord := by
  induction ids generalizing gone with
  | nil => exact absurd ⟨List.nodup_nil, fun _ h => nomatch h⟩ h
  | cons id ids ih =>
    cases hid : gone.contains id with
    | true =>
      refine ⟨[], id, ids, rfl, List.nodup_nil, (fun _ h => nomatch h),
        .inl (List.contains_iff_mem.mp hid), ?_, ?_⟩
      all_goals
        rw [removals, if_pos hid]
        rfl
    | false =>
      have hfresh : id ∉ gone := by
        rw [← List.contains_iff_mem, hid]
        exact Bool.false_ne_true
      have hrest : ¬(ids.Nodup ∧ ∀ x ∈ ids, x ∉ id :: gone) := by
        rintro ⟨hnodup, hnew⟩
        refine h ⟨List.nodup_cons.mpr ⟨fun hmem => hnew id hmem List.mem_cons_self, hnodup⟩, ?_⟩
        intro x hx
        rcases List.mem_cons.mp hx with rfl | hx
        · exact hfresh
        · exact fun hgone => hnew x hx (List.mem_cons_of_mem _ hgone)
      obtain ⟨before, x, after, hsplit, hnodup, hnew, hrepeat, hfail, hsteps⟩ := ih hrest
      refine ⟨id :: before, x, after, by rw [hsplit]; rfl, ?_, ?_, ?_, ?_, ?_⟩
      · exact List.nodup_cons.mpr ⟨fun hmem => hnew id hmem List.mem_cons_self, hnodup⟩
      · intro y hy
        rcases List.mem_cons.mp hy with rfl | hy
        · exact hfresh
        · exact fun hgone => hnew y hy (List.mem_cons_of_mem _ hgone)
      · rcases hrepeat with hgone | hmem
        · rcases List.mem_cons.mp hgone with rfl | hgone
          · exact .inr List.mem_cons_self
          · exact .inl hgone
        · exact .inr (List.mem_cons_of_mem _ hmem)
      · rw [removals, hid]
        exact hfail
      · rw [removals, hid]
        exact congrArg _ hsteps

/-- Distinct names are forgotten. -/
theorem Survey.plan_of_nodup {s : Survey} (hnodup : s.deleted.Nodup) (site : Site)
    (d : Directory) (htemp : d.temp = none) :
    (s.plan site).outcome = .ok s.deleted ∧ s.Done s.deleted d ((s.plan site).final d) ∧
      ((s.plan site).final d).temp = none := by
  rw [plan]
  cases hdeleted : s.deleted with
  | nil => exact ⟨rfl, ⟨hdeleted.symm, by rw [if_pos hdeleted]; rfl⟩, htemp⟩
  | cons id rest =>
    rw [← hdeleted, if_neg (by simp [hdeleted])]
    obtain ⟨hok, hforgets⟩ := forget_eq site s.current s.kept hnodup d
    obtain ⟨-, hsteps⟩ := removals_eq site hnodup fun _ _ (h : _ ∈ []) => nomatch h
    refine ⟨hok, ⟨rfl, by rwa [if_neg (by simp [hdeleted])]⟩, ?_⟩
    rw [final_forget hsteps]

/-- Forgetting breaks off when the names are not distinct. -/
theorem Survey.plan_of_repeat {s : Survey} (hrepeat : ¬s.deleted.Nodup) (site : Site)
    (d : Directory) :
    ∃ id, (s.plan site).outcome = .error (site.fault .missing (recordName id)) ∧
      BreaksOff s id d ((s.plan site).final d) := by
  obtain ⟨before, id, after, hsplit, hnodup, -, hid, hfail, hsteps⟩ :=
    @removals_of_repeat site [] s.deleted fun h => hrepeat h.1
  have hsome : s.deleted.isEmpty = false := by
    rw [hsplit]
    cases before <;> rfl
  rw [plan, hsome]
  refine ⟨id, ?_, ?_⟩
  · rw [if_neg Bool.false_ne_true, forget]
    simp only [hfail]
    rfl
  · rw [if_neg Bool.false_ne_true, final_forget hsteps]
    exact ⟨⟨before, after, hsplit, hnodup, by simpa using hid, rfl⟩, rfl, rfl, rfl⟩

/-- A file is gone when a prune has broken off. -/
theorem BreaksOff.ne {s : Survey} {id : Text} {d d' : Directory} (h : BreaksOff s id d d')
    (hfile : d.hasFile id = true) : d' ≠ d := by
  rintro rfl
  obtain ⟨before, after, -, -, hid, hrecords⟩ := h.records
  have hnone : d'.file? id = none := by
    rw [file?, hrecords, Option.map_eq_none_iff, List.find?_eq_none]
    intro e he hname
    have hkept := (List.mem_filter.mp he).2
    rw [beq_iff_eq.mp hname, List.contains_iff_mem.mpr hid] at hkept
    cases hkept
  rw [hasFile, hnone] at hfile
  cases hfile

end Directory

open Directory

namespace Call

variable {t : Instruments} {w : World} {now : Option Moment} {age : Int}

/-- A prune without a cutoff, or without the lock, changes no file. -/
theorem prune_refused (keep : Bool)
    (h : ∀ c, cutoff t w now age = .ok c → w.store.site.isFolder lockName = true) :
    ∃ f w', perform t (.prune now age keep) w = (.error f, w') ∧ w'.store = w.store := by
  obtain ⟨read, hstore, hrun⟩ := perform_prune t w now age keep
  cases hcutoff : cutoff t w now age with
  | error f =>
    exact ⟨f, read, hrun.trans (Act.bind_eq_of_error (Act.lift_eq hcutoff)), hstore⟩
  | ok c =>
    have hfolder : read.store.site.isFolder lockName = true := hstore ▸ h c hcutoff
    have hlocked : Act.locking (·.pruneBefore c keep) read =
        (.error (read.store.site.fault .folder lockName), read) := by
      simp only [Act.locking, Site.check, hfolder, if_true]
    exact ⟨_, read, hrun.trans ((Act.bind_eq_of_ok (Act.lift_eq hcutoff)).trans hlocked), hstore⟩

/-- What a prune that is begun finds out before its first step. -/
def Begins (t : Instruments) (w : World) (now : Option Moment) (age : Int) (keep : Bool)
    (s : Survey) : Prop :=
  ∃ c, cutoff t w now age = .ok c ∧ w.store.site.isFolder lockName = false ∧
    w.store.survey c keep = .ok s

/-- A prune that is begun does what its survey asks for. -/
theorem Begins.carries {keep : Bool} {s : Survey} (h : Begins t w now age keep s) :
    ∃ w', perform t (.prune now age keep) w = ((s.plan w.store.site).outcome, w') ∧
      w'.store = (s.plan w.store.site).final w.store := by
  obtain ⟨c, hcutoff, hlock, hsurvey⟩ := h
  obtain ⟨w', hcarries⟩ := carries_prune hcutoff hlock keep
  rw [pruneBefore_eq_survey, hsurvey, Plan.after_ok] at hcarries
  exact ⟨w', hcarries⟩

/-- A prune that is not begun changes no file. -/
theorem prune_of_not_begins {keep : Bool} (h : ∀ s, ¬Begins t w now age keep s) :
    ∃ f w', perform t (.prune now age keep) w = (.error f, w') ∧ w'.store = w.store := by
  by_cases hcutoff : ∀ c, cutoff t w now age = .ok c → w.store.site.isFolder lockName = true
  · exact prune_refused keep hcutoff
  · push Not at hcutoff
    obtain ⟨c, hcutoff, hlock⟩ := hcutoff
    obtain ⟨w', hcarries⟩ := carries_prune hcutoff (Bool.eq_false_iff.mpr hlock) keep
    cases hsurvey : w.store.survey c keep with
    | error f =>
      rw [pruneBefore_eq_survey, hsurvey] at hcarries
      exact ⟨f, w', hcarries⟩
    | ok s => exact absurd ⟨c, hcutoff, Bool.eq_false_iff.mpr hlock, hsurvey⟩ (h s)

/-- A prune that is begun breaks off when the names that are to go are not distinct. -/
theorem Begins.breaks_off {keep : Bool} {s : Survey} (h : Begins t w now age keep s)
    (hrepeat : ¬s.deleted.Nodup) :
    ∃ id w', perform t (.prune now age keep) w =
        (.error (w.store.site.fault .missing (recordName id)), w') ∧
      BreaksOff s id w.store w'.store ∧ w'.store ≠ w.store := by
  obtain ⟨w', hrun, hstore⟩ := h.carries
  obtain ⟨id, hfail, hfiles⟩ := Survey.plan_of_repeat hrepeat w.store.site w.store
  rw [← hstore] at hfiles
  obtain ⟨before, after, hsplit, -⟩ := hfiles.records
  obtain ⟨c, -, -, hsurvey⟩ := h
  have hmem : id ∈ s.deleted := by simp [hsplit]
  exact ⟨id, w', hrun.trans (by rw [hfail]), hfiles, hfiles.ne (hasFile_of_survey hsurvey hmem)⟩

end Call

/-- On every store, whatever its files hold, a prune does the whole of its work or nothing if and
only if the names that are to go are distinct. Where one comes twice, its file is missing when its
turn comes again, and what was deleted by then stays so. -/
theorem prune_all_or_nothing_iff (t : Instruments) {w : World} (htemp : w.store.temp = none)
    (now : Option Moment) (age : Int) (keep : Bool) :
    ((Act.AllOrNothing ((Call.prune now age keep).perform t) w fun gone d' =>
        ∃ s, Call.Begins t w now age keep s ∧ s.Done gone w.store d') ↔
      ∀ s, Call.Begins t w now age keep s → s.deleted.Nodup) ∧
    ∀ s, Call.Begins t w now age keep s → ¬s.deleted.Nodup → ∃ id w',
      (Call.prune now age keep).perform t w =
        (.error (w.store.site.fault .missing (recordName id)), w') ∧
      BreaksOff s id w.store w'.store ∧ w'.store ≠ w.store := by
  refine ⟨⟨fun hall s hbegins => ?_, fun hdistinct => ?_⟩, fun s => Call.Begins.breaks_off⟩
  · by_contra hrepeat
    obtain ⟨id, w', hrun, -, hne⟩ := hbegins.breaks_off hrepeat
    rcases hall with ⟨gone, w'', hdone, -⟩ | ⟨f, w'', hfail, hsame, -⟩
    · cases hrun.symm.trans hdone
    · obtain ⟨-, rfl⟩ := Prod.mk.inj (hrun.symm.trans hfail)
      exact hne hsame
  · by_cases hbegun : ∃ s, Call.Begins t w now age keep s
    · obtain ⟨s, hbegins⟩ := hbegun
      obtain ⟨w', hrun, hstore⟩ := hbegins.carries
      obtain ⟨hok, hdone, hclean⟩ :=
        Survey.plan_of_nodup (hdistinct s hbegins) w.store.site w.store htemp
      rw [← hstore] at hdone hclean
      exact .inl ⟨s.deleted, w', hrun.trans (by rw [hok]), ⟨s, hbegins, hdone⟩, hclean⟩
    · push Not at hbegun
      obtain ⟨f, w', hrun, hstore⟩ := Call.prune_of_not_begins hbegun
      exact .inr ⟨f, w', hrun, hstore, hstore ▸ htemp⟩

/-! ## A name that is listed twice -/

/-- A store of one record whose name is listed twice. -/
def doubled : World := .of { Directory.empty (.clear "store") with
  records := [fileOf .sample]
  index := some (octets (indexText ["main-1", "main-1"])) }

/-- Both lines of its index are to go. -/
theorem begins_doubled : Call.Begins still doubled none (-1) false
    ⟨none, [], ["main-1", "main-1"]⟩ := by
  let m := ProofRecord.sample.createdAt
  obtain ⟨c, hc⟩ : ∃ c, m.add? (-(-1)) = some c := Option.isSome_iff_exists.mp (by decide)
  obtain ⟨hinstant, haware⟩ := Moment.instant_of_add? hc
  have hpointed : doubled.store.pointed = .ok .null := pointed_none rfl rfl
  have hhistory : doubled.store.history = .ok ["main-1", "main-1"] := by
    refine history_eq rfl (fun id hid => ?_) (octets_indexText _)
    obtain rfl : id = "main-1" := by simpa using hid
    exact named_sample.exact
  have hget : doubled.store.get "main-1" = .ok .sample := by
    obtain ⟨content, hcontent⟩ := exists_documentOctets (r := .sample) rfl
      (ProofRecord.fits_of_lt (by decide)) (by decide)
    have hfile : doubled.store.file? "main-1" = some content := by
      have hself : doubled.store.file? "main-1" = some (fileOf .sample).2 := rfl
      rw [hself, fileOf, hcontent]
      rfl
    exact get_of_file (by decide) (by decide) rfl hcontent hfile
  have hgoes : doubled.store.goes c none "main-1" = .ok true := by
    have hbefore : m.instant < c.instant := by omega
    rw [goes, hget]
    simp only [bind, Except.bind, isOld, haware]
    simp only [show ProofRecord.sample.createdAt.instant < c.instant from hbefore]
    rfl
  have hdoomed : doubled.store.doomed c none ["main-1", "main-1"] = .ok [true, true] := by
    simp only [doomed, List.mapM_cons, List.mapM_nil, hgoes]
    rfl
  refine ⟨c, Call.cutoff_of_add? rfl hc, rfl, ?_⟩
  rw [survey, hpointed, hhistory]
  simp only [bind, Except.bind, Bool.false_eq_true, if_false, hdoomed]
  rfl

theorem prune_all_or_nothing_iff_doubled :
    doubled.store.temp = none ∧
      ¬Act.AllOrNothing ((Call.prune none (-1) false).perform still) doubled fun gone d' =>
        ∃ s, Call.Begins still doubled none (-1) false s ∧ s.Done gone doubled.store d' := by
  refine ⟨rfl, fun hall => ?_⟩
  have hdistinct := (prune_all_or_nothing_iff still rfl none (-1) false).1.mp hall
  exact absurd (hdistinct _ begins_doubled) (by decide)

/-- The prune fails when the record and the index are gone. -/
theorem prune_breaks_off_doubled :
    ∃ f w', (Call.prune none (-1) false).perform still doubled = (.error f, w') ∧
      w'.store.records = [] ∧ w'.store.index = some [] ∧
      ¬(w'.store.records = doubled.store.records ∧ w'.store.index = doubled.store.index ∧
        w'.store.pointer = doubled.store.pointer) := by
  obtain ⟨w', hrun, hstore⟩ := begins_doubled.carries
  have hrecords : w'.store.records = [] := by
    rw [hstore]
    decide
  refine ⟨_, w', hrun, hrecords, by rw [hstore]; rfl, ?_⟩
  rintro ⟨hsame, -⟩
  rw [hrecords] at hsame
  cases hsame

end ProofLedger
