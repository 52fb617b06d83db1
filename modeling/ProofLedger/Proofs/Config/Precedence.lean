import ProofLedger.Config.Sources
import ProofLedger.Proofs.Record.Accepted
import ProofLedger.Proofs.Toml.Distinct

/-!
# Which source decides

`load_precedence`: each field of a configuration that is loaded has what the highest source says
that speaks of it, in valid form. `Sources.value?` is what is said, one source after another: the
command line, the variables of the environment, the file, and then the default. So two
configurations are equal when their sources agree as far as they are heard (`Sources.Agree`).

The reader of configurations works the other way round: it lays whole lists of fields over one
another and checks the result once. That a field is found there as its source gave it is
`value?_of_gather`; it needs that no source speaks of a field twice, which for a file is what
`Toml.distinct_read` says.
-/

namespace ProofLedger.Config

/-! ## What the sources say -/

/-- All that speaks about the fields of a configuration. -/
structure Sources where
  /-- What the file holds. -/
  payload : Data
  /-- The directory of the file. -/
  base : Text
  surroundings : Surroundings
  overrides : Intake.Fields

namespace Sources

/-- The sources of a configuration that is to be loaded. -/
def read (s : Surroundings) (path : Option Text) (overrides : Intake.Fields) :
    Except Failure Sources := do
  let file ← filePath s path
  pure ⟨← loadFile s file path.isSome, Path.parent file, s, overrides⟩

/-- What the command line says of a field. Null says nothing. -/
def override? (q : Sources) (field : Text) : Option Data :=
  (valueAt? q.overrides field).filter isGiven

/-- What the environment says of a field. -/
def raw? (q : Sources) (field : Text) : Option Data :=
  q.surroundings.variable? (variableOf field)

/-- The section and the key of a field in a file. -/
def placeOf? (field : Text) : Option (Text × Text) :=
  (fileFields.find? fun f => f.2.2 == field).map fun f => (f.1, f.2.1)

/-- The value under a key of a section. -/
def entryAt? (sections : Intake.Fields) (table key : Text) : Option Data :=
  match valueAt? sections table with
  | some (.dict entries) => valueAt? entries key
  | _ => none

/-- What stands in the file for a field. -/
def written? (q : Sources) (field : Text) : Option Data :=
  match q.payload, placeOf? field with
  | .dict sections, some (table, key) => entryAt? sections table key
  | _, _ => none

/-- What the file says of a field. A store root is seen from the directory of the file. -/
def fromFile (q : Sources) (field : Text) : Except Failure (Option Data) :=
  match q.written? field with
  | none => .ok none
  | some d =>
    if field = "store_root" then
      (rootFrom q.base q.surroundings.homes d).map fun root => some (.text root)
    else .ok (some d)

/-- What is said of a field: the command line is heard first, then the environment, then the
file. -/
def value? (q : Sources) (field : Text) : Except Failure (Option Data) :=
  match q.override? field, q.raw? field with
  | some d, _ => .ok (some d)
  | none, some raw => (fromVariable field raw).map some
  | none, none => q.fromFile field

/-- The field has what is said of it, in valid form, or its default when nothing is said. -/
def Settles {α : Type} (q : Sources) (field : Text) (default : α) (check : Data → Checked α)
    (a : α) : Prop :=
  ∃ d, q.value? field = .ok d ∧
    match d with
    | some d => check d = .ok a
    | none => a = default

/-- Every field of the configuration follows the sources. -/
structure Follows (q : Sources) (c : Config) : Prop where
  storeRoot : q.Settles "store_root" default.storeRoot checkPath c.storeRoot
  threshold : q.Settles "threshold_percent" default.threshold Intake.positive c.threshold
  failOnRegression :
    q.Settles "fail_on_regression" default.failOnRegression Intake.bool c.failOnRegression
  engine : q.Settles "engine" default.engine Intake.text c.engine
  oracle : q.Settles "oracle" default.oracle Intake.text c.oracle
  length : q.Settles "length" default.length Intake.nat c.length
  blockCommitment :
    q.Settles "block_commitment" default.blockCommitment checkWords c.blockCommitment
  nonce : q.Settles "nonce" default.nonce checkWords c.nonce
  testName : q.Settles "test_name" default.testName Intake.text c.testName
  logLevel : q.Settles "log_level" default.logLevel checkLevel c.logLevel

/-- The sources say the same of a field as far as they are heard: where a source speaks, those
below it may say anything. -/
def Agree (q q' : Sources) (field : Text) : Prop :=
  q.override? field = q'.override? field ∧
    (q.override? field = none → q.raw? field = q'.raw? field ∧
      (q.raw? field = none → q.fromFile field = q'.fromFile field))

theorem Agree.value?_eq {q q' : Sources} {field : Text} (h : q.Agree q' field) :
    q.value? field = q'.value? field := by
  obtain ⟨hoverride, hbelow⟩ := h
  rw [value?, value?, ← hoverride]
  cases hd : q.override? field with
  | some d => rfl
  | none =>
    obtain ⟨hraw, hfile⟩ := hbelow hd
    rw [← hraw]
    cases hnone : q.raw? field with
    | some raw => rfl
    | none => exact hfile hnone

theorem Settles.eq {α : Type} {q q' : Sources} {field : Text} {default : α}
    {check : Data → Checked α} {a a' : α} (h : q.Settles field default check a)
    (h' : q'.Settles field default check a') (hsame : q.Agree q' field) : a' = a := by
  obtain ⟨d, hd, ha⟩ := h
  obtain ⟨d', hd', ha'⟩ := h'
  rw [← hsame.value?_eq, hd] at hd'
  obtain rfl := Except.ok.inj hd'
  cases d with
  | some d => exact Except.ok.inj (ha'.symm.trans ha)
  | none => exact ha'.trans ha.symm

/-- Configurations that follow sources which agree are equal. -/
theorem Follows.eq {q q' : Sources} {c c' : Config} (h : q.Follows c) (h' : q'.Follows c')
    (hsame : ∀ field ∈ fieldNames, q.Agree q' field) : c' = c := by
  obtain ⟨storeRoot, threshold, failOnRegression, engine, oracle, length, blockCommitment, nonce,
    testName, logLevel⟩ := c
  obtain ⟨storeRoot', threshold', failOnRegression', engine', oracle', length', blockCommitment',
    nonce', testName', logLevel'⟩ := c'
  rw [Config.mk.injEq]
  exact ⟨h.storeRoot.eq h'.storeRoot (hsame _ (by decide)),
    h.threshold.eq h'.threshold (hsame _ (by decide)),
    h.failOnRegression.eq h'.failOnRegression (hsame _ (by decide)),
    h.engine.eq h'.engine (hsame _ (by decide)), h.oracle.eq h'.oracle (hsame _ (by decide)),
    h.length.eq h'.length (hsame _ (by decide)),
    h.blockCommitment.eq h'.blockCommitment (hsame _ (by decide)),
    h.nonce.eq h'.nonce (hsame _ (by decide)),
    h.testName.eq h'.testName (hsame _ (by decide)),
    h.logLevel.eq h'.logLevel (hsame _ (by decide))⟩

end Sources

/-! ## Laying fields over others -/

/-- Fields that are laid over others hide those of the same name. -/
theorem valueAt?_overlay {above : Intake.Fields} (hkeys : (above.map Prod.fst).Nodup)
    (below : Intake.Fields) (name : Text) :
    valueAt? (overlay below above) name = (valueAt? above name).or (valueAt? below name) := by
  induction above generalizing below with
  | nil => rfl
  | cons e above ih =>
    obtain ⟨k, v⟩ := e
    rw [List.map_cons, List.nodup_cons] at hkeys
    have hstep : overlay below ((k, v) :: above) = overlay (setEntry below k v) above := rfl
    rw [hstep, ih hkeys.2, valueAt?_setEntry, valueAt?_cons]
    by_cases hk : k = .text name
    · have hnone : valueAt? above name = none := valueAt?_eq_none (hk ▸ hkeys.1)
      rw [if_pos hk, if_pos hk, hnone]
      rfl
    · rw [if_neg hk, if_neg hk]

/-! ## The file -/

/-- A key of a section sets the field whose place it is. -/
theorem fieldOf_eq_ok {table key : Key} {field : Text} (h : fieldOf table key = .ok field) :
    ∃ t k, Sources.placeOf? field = some (t, k) ∧ table = .text t ∧ key = .text k := by
  unfold fieldOf at h
  split at h
  · next f hfound =>
    have hplaces : ∀ f ∈ fileFields, Sources.placeOf? f.2.2 = some (f.1, f.2.1) := by decide
    have hnames := List.find?_some hfound
    rw [Bool.and_eq_true, beq_iff_eq, beq_iff_eq] at hnames
    obtain rfl := Except.ok.inj h
    exact ⟨f.1, f.2.1, hplaces f (List.mem_of_find?_eq_some hfound), hnames⟩
  · cases h

/-- The place of a field sets it and no other. -/
theorem fieldOf_placeOf? {field t k : Text} (h : Sources.placeOf? field = some (t, k)) :
    fieldOf (.text t) (.text k) = .ok field := by
  obtain ⟨f, hfound, hplace⟩ := Option.map_eq_some_iff.mp h
  have hplaces : ∀ f ∈ fileFields,
      (fileFields.find? fun g => Key.text f.1 == .text g.1 && Key.text f.2.1 == .text g.2.1) =
        some f := by decide
  have hname : f.2.2 = field := by simpa using List.find?_some hfound
  cases hplace
  rw [fieldOf, hplaces f (List.mem_of_find?_eq_some hfound)]
  exact congrArg Except.ok hname

/-- What a section says of a field, given the section and the key that set it. -/
def sectionValue? (table : Key) (entries : Intake.Fields) (t k : Text) : Option Data :=
  if table = .text t then valueAt? entries k else none

theorem valueAt?_addSection {t k field : Text} {table : Key}
    (hplace : Sources.placeOf? field = some (t, k)) {entries flat flat' : Intake.Fields}
    (hkeys : (entries.map Prod.fst).Nodup) (h : addSection table flat entries = .ok flat') :
    valueAt? flat' field = (sectionValue? table entries t k).or (valueAt? flat field) := by
  induction entries generalizing flat with
  | nil =>
    cases h
    rw [sectionValue?]
    split <;> rfl
  | cons e entries ih =>
    obtain ⟨key, v⟩ := e
    rw [List.map_cons, List.nodup_cons] at hkeys
    obtain ⟨name, hname, h⟩ := bind_eq_ok h
    rw [ih hkeys.2 h, valueAt?_setEntry, sectionValue?, sectionValue?, valueAt?_cons]
    by_cases hsame : name = field
    · obtain ⟨t', k', hplace', htable, hkey⟩ := fieldOf_eq_ok hname
      rw [hsame, hplace] at hplace'
      obtain ⟨rfl, rfl⟩ := Prod.mk.inj (Option.some.inj hplace')
      have hnone : valueAt? entries k = none := valueAt?_eq_none (hkey ▸ hkeys.1)
      simp [htable, hkey, hsame, hnone]
    · have hother : ¬(table = .text t ∧ key = .text k) := by
        rintro ⟨rfl, rfl⟩
        rw [fieldOf_placeOf? hplace] at hname
        exact hsame (Except.ok.inj hname).symm
      have hname : Key.text name ≠ .text field := fun h => hsame (Key.text.inj h)
      rw [if_neg hname]
      by_cases htable : table = .text t
      · rw [if_pos htable, if_pos htable, if_neg fun hkey => hother ⟨htable, hkey⟩]
      · rw [if_neg htable, if_neg htable]

theorem valueAt?_addSections {t k field : Text} (hplace : Sources.placeOf? field = some (t, k))
    {sections flat flat' : Intake.Fields} (hdistinct : Toml.Distinct (.dict sections))
    (h : addSections flat sections = .ok flat') :
    valueAt? flat' field = (Sources.entryAt? sections t k).or (valueAt? flat field) := by
  induction sections generalizing flat with
  | nil =>
    cases h
    rfl
  | cons e sections ih =>
    obtain ⟨table, d⟩ := e
    have hkeys := hdistinct.keys
    rw [List.map_cons, List.nodup_cons] at hkeys
    have hrest : Toml.Distinct (.dict sections) :=
      .dict hkeys.2 fun e he => hdistinct.entries e (List.mem_cons_of_mem _ he)
    have hd : Toml.Distinct d := hdistinct.entries _ List.mem_cons_self
    cases d with
    | dict entries =>
      obtain ⟨flat₁, h₁, h⟩ := bind_eq_ok h
      rw [ih hrest h, valueAt?_addSection hplace hd.keys h₁, sectionValue?, Sources.entryAt?,
        Sources.entryAt?, valueAt?_cons]
      by_cases htable : table = .text t
      · have hnone : valueAt? sections t = none := valueAt?_eq_none (htable ▸ hkeys.1)
        rw [if_pos htable, if_pos htable, hnone]
        rfl
      · rw [if_neg htable, if_neg htable]
        rfl
    | _ => cases h

/-- What a file holds has distinct keys. -/
theorem distinct_loadFile {s : Surroundings} {path : Text} {isRequired : Bool} {payload : Data}
    (h : loadFile s path isRequired = .ok payload) : Toml.Distinct payload := by
  rw [loadFile] at h
  split at h
  · rw [readToml] at h
    split at h
    · cases h
    · split at h
      · cases h
      · split at h
        · next hread =>
          cases h
          exact Toml.distinct_read hread
        · cases h
        · cases h
  · cases h
  · cases h
  · split at h
    · cases h
    · cases h
      exact .empty

/-- The fields of a file are what it says of them. -/
theorem fromFile_flatten {q : Sources} {flat : Intake.Fields} (hdistinct : Toml.Distinct q.payload)
    (h : flatten q.base q.surroundings.homes q.payload = .ok flat) {field : Text}
    (hfield : field ∈ fieldNames) : q.fromFile field = .ok (valueAt? flat field) := by
  have hplaces : ∀ field ∈ fieldNames, (Sources.placeOf? field).isSome = true := by decide
  unfold flatten at h
  split at h
  · next sections hpayload =>
    rw [hpayload] at hdistinct
    obtain ⟨flat₀, hflat₀, h⟩ := bind_eq_ok h
    have hwritten : ∀ field ∈ fieldNames, q.written? field = valueAt? flat₀ field := by
      intro field hfield
      obtain ⟨⟨t, k⟩, hplace⟩ := Option.isSome_iff_exists.mp (hplaces field hfield)
      rw [valueAt?_addSections hplace hdistinct hflat₀, Sources.written?, hpayload, hplace]
      exact (Option.or_none).symm
    rw [Sources.fromFile, hwritten field hfield]
    by_cases hroot : field = "store_root"
    · subst hroot
      rcases hd : valueAt? flat₀ ("store_root" : Text) with _ | d
      · rw [hd] at h
        cases h
        rw [hd]
      · rw [hd] at h
        obtain ⟨root, hroot, h⟩ := bind_eq_ok h
        cases h
        rw [valueAt?_setEntry, if_pos rfl]
        simp only [if_true, hroot]
        rfl
    · have hsame : valueAt? flat field = valueAt? flat₀ field := by
        split at h
        · cases h
          rfl
        · obtain ⟨root, -, h⟩ := bind_eq_ok h
          cases h
          rw [valueAt?_setEntry, if_neg fun hk => hroot (Key.text.inj hk).symm]
      rw [hsame]
      cases valueAt? flat₀ field with
      | none => rfl
      | some d => exact if_neg hroot
  · cases h

/-! ## The environment -/

/-- What the environment says of a field. -/
def fromVariable? (s : Surroundings) (field : Text) : Except Failure (Option Data) :=
  match s.variable? (variableOf field) with
  | none => .ok none
  | some raw => (fromVariable field raw).map some

theorem keys_fromEnvironment {s : Surroundings} {fields : List Text} {env : Intake.Fields}
    (h : fromEnvironment s fields = .ok env) :
    (env.map Prod.fst).Sublist (fields.map Key.text) := by
  induction fields generalizing env with
  | nil =>
    cases h
    exact .slnil
  | cons field rest ih =>
    rw [fromEnvironment] at h
    split at h
    · exact (ih h).cons _
    · obtain ⟨v, -, h⟩ := bind_eq_ok h
      obtain ⟨env', henv', h⟩ := bind_eq_ok h
      cases h
      exact (ih henv').cons_cons _

theorem valueAt?_fromEnvironment {s : Surroundings} {fields : List Text} {env : Intake.Fields}
    (hnodup : fields.Nodup) (h : fromEnvironment s fields = .ok env) {field : Text}
    (hfield : field ∈ fields) : fromVariable? s field = .ok (valueAt? env field) := by
  induction fields generalizing env with
  | nil => cases hfield
  | cons first rest ih =>
    rw [List.nodup_cons] at hnodup
    have hfirst : ∀ {env' : Intake.Fields}, fromEnvironment s rest = .ok env' →
        valueAt? env' first = none := by
      intro env' henv'
      refine valueAt?_eq_none fun hmem => ?_
      obtain ⟨name, hname, hsame⟩ := List.mem_map.mp ((keys_fromEnvironment henv').subset hmem)
      exact hnodup.1 (Key.text.inj hsame ▸ hname)
    rw [fromEnvironment] at h
    split at h
    · next hnone =>
      rcases List.mem_cons.mp hfield with rfl | hfield
      · rw [fromVariable?, hnone, hfirst h]
      · exact ih hnodup.2 h hfield
    · next raw hraw =>
      obtain ⟨v, hv, h⟩ := bind_eq_ok h
      obtain ⟨env', henv', h⟩ := bind_eq_ok h
      cases h
      rw [valueAt?_cons]
      rcases List.mem_cons.mp hfield with rfl | hfield
      · rw [fromVariable?, hraw, if_pos rfl]
        simp only [hv]
        rfl
      · have hne : first ≠ field := fun hsame => hnodup.1 (hsame ▸ hfield)
        rw [if_neg fun hk => hne (Key.text.inj hk)]
        exact ih hnodup.2 henv' hfield

/-! ## All sources -/

/-- The command line is heard where it gives something. -/
theorem valueAt?_given {overrides : Intake.Fields} (hkeys : (overrides.map Prod.fst).Nodup)
    (name : Text) : valueAt? (given overrides) name = (valueAt? overrides name).filter isGiven := by
  induction overrides with
  | nil => rfl
  | cons e overrides ih =>
    obtain ⟨k, v⟩ := e
    rw [List.map_cons, List.nodup_cons] at hkeys
    rw [given] at ih ⊢
    rw [valueAt?_cons, List.filter_cons]
    by_cases hk : k = .text name
    · have hnone : valueAt? overrides name = none := valueAt?_eq_none (hk ▸ hkeys.1)
      rw [if_pos hk]
      cases hv : isGiven v with
      | true => rw [if_pos rfl, valueAt?_cons, if_pos hk, Option.filter, hv]; rfl
      | false =>
        rw [if_neg Bool.false_ne_true, ih hkeys.2, hnone, Option.filter, Option.filter, hv]
        rfl
    · rw [if_neg hk, ← ih hkeys.2]
      split
      · rw [valueAt?_cons, if_neg hk]
      · rfl

/-- The fields that are gathered are what is said of them. -/
theorem value?_of_gather {s : Surroundings} {path : Option Text} {overrides fields : Intake.Fields}
    (hkeys : (overrides.map Prod.fst).Nodup) (h : gather s path overrides = .ok fields) :
    ∃ q, Sources.read s path overrides = .ok q ∧
      ∀ field ∈ fieldNames, q.value? field = .ok (valueAt? fields field) := by
  obtain ⟨flat, hflat, h⟩ := bind_eq_ok h
  obtain ⟨env, henv, h⟩ := bind_eq_ok h
  cases h
  obtain ⟨file, hfile, hflat⟩ := bind_eq_ok hflat
  obtain ⟨payload, hpayload, hflat⟩ := bind_eq_ok hflat
  let q : Sources := ⟨payload, Path.parent file, s, overrides⟩
  refine ⟨q, ?_, fun field hfield => ?_⟩
  · rw [Sources.read, hfile]
    simp only [bind, Except.bind, hpayload]
    rfl
  · have hnodup : fieldNames.Nodup := by decide
    have henvKeys : (env.map Prod.fst).Nodup :=
      (keys_fromEnvironment henv).nodup (hnodup.map fun _ _ h => Key.text.inj h)
    have hgivenKeys : ((given overrides).map Prod.fst).Nodup :=
      hkeys.sublist (List.Sublist.map _ List.filter_sublist)
    have hfromFile : q.fromFile field = .ok (valueAt? flat field) :=
      fromFile_flatten (distinct_loadFile hpayload) hflat hfield
    have hfromVariable : fromVariable? s field = .ok (valueAt? env field) :=
      valueAt?_fromEnvironment hnodup henv hfield
    have hoverride : q.override? field = (valueAt? overrides field).filter isGiven := rfl
    have hraw : q.raw? field = s.variable? (variableOf field) := rfl
    rw [valueAt?_overlay hgivenKeys, valueAt?_overlay henvKeys, valueAt?_given hkeys,
      Sources.value?, hoverride, hraw]
    cases (valueAt? overrides field).filter isGiven with
    | some d => rfl
    | none =>
      rw [fromVariable?] at hfromVariable
      cases hvariable : s.variable? (variableOf field) with
      | some raw =>
        rw [hvariable] at hfromVariable
        obtain ⟨v, hv, henvValue⟩ := map_eq_ok hfromVariable
        rw [← henvValue]
        exact congrArg (Except.map some) hv
      | none =>
        rw [hvariable] at hfromVariable
        rw [← Except.ok.inj hfromVariable]
        exact hfromFile

theorem settles_of_optional {α : Type} {q : Sources} {fields : Intake.Fields} {field : Text}
    {default : α} {check : Data → Checked α} {a : α}
    (hvalue : q.value? field = .ok (valueAt? fields field))
    (h : Intake.optional fields field default check = .ok a) :
    q.Settles field default check a := by
  refine ⟨_, hvalue, ?_⟩
  rw [Intake.optional] at h
  cases hd : valueAt? fields field with
  | none =>
    rw [hd] at h
    exact (Except.ok.inj h).symm
  | some d =>
    rw [hd] at h
    exact mapError_eq_ok h

/-- A configuration that was built follows what was said of its fields. -/
theorem follows_of_build {q : Sources} {fields : Intake.Fields} {c : Config}
    (hvalue : ∀ field ∈ fieldNames, q.value? field = .ok (valueAt? fields field))
    (h : build fields = .ok c) : q.Follows c := by
  obtain ⟨p, hp, rfl⟩ := map_eq_ok (mapError_eq_ok h)
  obtain ⟨hfront, htails⟩ := Intake.both_eq_ok (Intake.closed_eq_ok hp)
  obtain ⟨hheads, hmiddle⟩ := Intake.both_eq_ok hfront
  obtain ⟨hpair, hfail⟩ := Intake.both_eq_ok hheads
  obtain ⟨hroot, hthreshold⟩ := Intake.both_eq_ok hpair
  obtain ⟨hfactories, hlength⟩ := Intake.both_eq_ok hmiddle
  obtain ⟨hengine, horacle⟩ := Intake.both_eq_ok hfactories
  obtain ⟨hwords, hnames⟩ := Intake.both_eq_ok htails
  obtain ⟨hcommitment, hnonce⟩ := Intake.both_eq_ok hwords
  obtain ⟨htest, hlevel⟩ := Intake.both_eq_ok hnames
  exact {
    storeRoot := settles_of_optional (hvalue _ (by decide)) hroot
    threshold := settles_of_optional (hvalue _ (by decide)) hthreshold
    failOnRegression := settles_of_optional (hvalue _ (by decide)) hfail
    engine := settles_of_optional (hvalue _ (by decide)) hengine
    oracle := settles_of_optional (hvalue _ (by decide)) horacle
    length := settles_of_optional (hvalue _ (by decide)) hlength
    blockCommitment := settles_of_optional (hvalue _ (by decide)) hcommitment
    nonce := settles_of_optional (hvalue _ (by decide)) hnonce
    testName := settles_of_optional (hvalue _ (by decide)) htest
    logLevel := settles_of_optional (hvalue _ (by decide)) hlevel }

/-- A configuration that is loaded follows its sources and describes an input. -/
theorem follows_of_load {s : Surroundings} {path : Option Text} {overrides : Intake.Fields}
    {c : Config} (hkeys : (overrides.map Prod.fst).Nodup) (h : load s path overrides = .ok c) :
    ∃ q, Sources.read s path overrides = .ok q ∧ q.Follows c ∧ ∃ i, c.proveInput = .ok i := by
  obtain ⟨gathered, hgather, h⟩ := bind_eq_ok h
  obtain ⟨fields, hnamed, h⟩ := bind_eq_ok h
  obtain rfl : gathered = fields := by
    unfold Failure.named at hnamed
    split at hnamed
    · exact Except.ok.inj hnamed
    · cases hnamed
  obtain ⟨built, hbuild, h⟩ := bind_eq_ok (mapError_eq_ok h)
  obtain ⟨i, hi, h⟩ := bind_eq_ok h
  cases h
  obtain ⟨q, hq, hvalue⟩ := value?_of_gather hkeys hgather
  exact ⟨q, hq, follows_of_build hvalue hbuild, i, hi⟩

/-- Every field of a configuration that is loaded is what the command line says of it, or else the
environment, or else the file, or else its default, and the configuration describes an input. What
a source says below one that is heard makes no difference. -/
theorem load_precedence {s : Surroundings} {path : Option Text} {overrides : Intake.Fields}
    {c : Config} (hkeys : (overrides.map Prod.fst).Nodup) (h : load s path overrides = .ok c) :
    ∃ q, Sources.read s path overrides = .ok q ∧ q.Follows c ∧ (∃ i, c.proveInput = .ok i) ∧
      ∀ s' path' overrides' c' q', (overrides'.map Prod.fst).Nodup →
        load s' path' overrides' = .ok c' → Sources.read s' path' overrides' = .ok q' →
        (∀ field ∈ fieldNames, q.Agree q' field) → c' = c := by
  obtain ⟨q, hq, hfollows, hinput⟩ := follows_of_load hkeys h
  refine ⟨q, hq, hfollows, hinput, fun s' path' overrides' c' q' hkeys' h' hq' hsame => ?_⟩
  obtain ⟨q'', hq'', hfollows', -⟩ := follows_of_load hkeys' h'
  obtain rfl : q'' = q' := Except.ok.inj (hq''.symm.trans hq')
  exact hfollows.eq hfollows' hsame

/-- A file that sets the store root and the length, and a variable that sets the length too. -/
def layered : Surroundings where
  directory := "/work"
  homes := []
  environment := [("PROOFGUARD_LENGTH", .text "7")]
  find path :=
    if path = "/work/proofguard.toml" then
      .ok (.file (Text.Utf8.encode "[store]\nroot = \"data\"\n[input]\nlength = 3\n"))
    else .error .missing

/-- The command line gives a log level and leaves the prover as it is. -/
theorem load_precedence_layered :
    let overrides : Intake.Fields :=
      [(("log_level" : Text), .text "debug"), (("engine" : Text), .null)]
    let c := { default with storeRoot := "/work/data", length := 7, logLevel := "DEBUG" }
    (overrides.map Prod.fst).Nodup ∧ load layered none overrides = .ok c ∧
      ∃ q, Sources.read layered none overrides = .ok q ∧ q.Follows c := by
  intro overrides c
  have hsome : (load layered none overrides).toOption = some c := by decide +kernel
  have hload : load layered none overrides = .ok c := by
    cases h : load layered none overrides with
    | error f =>
      rw [h] at hsome
      cases hsome
    | ok c' =>
      rw [h] at hsome
      exact congrArg Except.ok (Option.some.inj hsome)
  obtain ⟨q, hq, hfollows, -⟩ := load_precedence (by decide) hload
  exact ⟨by decide, hload, q, hq, hfollows⟩

end ProofLedger.Config
