import ProofLedger.Proofs.Config.Precedence
import ProofLedger.Proofs.Record.Refusals

/-!
# How loading a configuration ends

Not every configuration that is no good ends in an error of the configuration: `Escapes` lists the
other ways out, in the order in which they are met. `escaping_load`: they are the only ones, and
each of them is taken.

Loading is a chain of steps, and so is the list. `Escaping` says of one step which faults it ends
in, and that it has no other failures than these and errors of the configuration; `Escaping.bind`
puts two steps together. What is left is one lemma for each step.

Which files are nested too deep is for the stack to say; `Escapes.room_lt` says what it takes.
-/

namespace ProofLedger.Config

open Checked Intake

/-! ## Faults of a step -/

section Escaping

variable {α β : Type} {P Q : Fault → Prop} {r : Except Failure α}

/-- The step ends in one of these faults, or in an error of the configuration, or well; and each of
the faults ends it. -/
structure Escaping (P : Fault → Prop) (r : Except Failure α) : Prop where
  only : ∀ f, r = .error f → (∃ c, f = .ledger (.config c)) ∨ ∃ x, f = .fault x ∧ P x
  taken : ∀ x, P x → r = .error (.fault x)

theorem Escaping.iff (h : Escaping P r) (x : Fault) : r = .error (.fault x) ↔ P x := by
  refine ⟨fun hx => ?_, h.taken x⟩
  rcases h.only _ hx with ⟨c, hc⟩ | ⟨y, hy, hP⟩
  · cases hc
  · cases hy
    exact hP

/-- Without a fault a step ends well or in an error of the configuration. -/
theorem Escaping.clear_iff (h : Escaping P r) :
    (∀ x, ¬ P x) ↔ (∃ a, r = .ok a) ∨ ∃ c, r = .error (.ledger (.config c)) := by
  constructor
  · intro hclear
    cases hr : r with
    | ok a => exact .inl ⟨a, rfl⟩
    | error f =>
      rcases h.only f hr with ⟨c, rfl⟩ | ⟨x, -, hP⟩
      · exact .inr ⟨c, rfl⟩
      · exact absurd hP (hclear x)
  · intro hends x hP
    have hfault := h.taken x hP
    rcases hends with ⟨a, ha⟩ | ⟨c, hc⟩
    · cases ha.symm.trans hfault
    · cases hc.symm.trans hfault

theorem Escaping.congr (h : Escaping P r) (hPQ : ∀ x, P x ↔ Q x) : Escaping Q r where
  only f hf := (h.only f hf).imp_right fun ⟨x, hx, hP⟩ => ⟨x, hx, (hPQ x).mp hP⟩
  taken x hx := h.taken x ((hPQ x).mpr hx)

theorem escaping_ok (a : α) : Escaping (fun _ => False) (.ok a) where
  only _ h := nomatch h
  taken _ := False.elim

theorem escaping_error (y : Fault) : Escaping (· = y) (.error (.fault y) : Except Failure α) where
  only _ h := .inr ⟨y, (Except.error.inj h).symm, rfl⟩
  taken x hx := by rw [hx]

theorem escaping_fail (c : ConfigFault) :
    Escaping (fun _ => False) (fail c : Except Failure α) where
  only _ h := .inl ⟨c, (Except.error.inj h).symm⟩
  taken _ := False.elim

/-- A chain ends in a fault of its first step, or in one of the rest. -/
theorem Escaping.bind {R : α → Fault → Prop} {f : α → Except Failure β} (h : Escaping P r)
    (hf : ∀ a, r = .ok a → Escaping (R a) (f a)) :
    Escaping (fun x => P x ∨ ∃ a, r = .ok a ∧ R a x) (r >>= f) where
  only g hg := by
    rcases bind_eq_error hg with hr | ⟨a, ha, hg⟩
    · exact (h.only g hr).imp_right fun ⟨x, hx, hP⟩ => ⟨x, hx, .inl hP⟩
    · exact ((hf a ha).only g hg).imp_right fun ⟨x, hx, hR⟩ => ⟨x, hx, .inr ⟨a, ha, hR⟩⟩
  taken x hx := by
    rcases hx with hP | ⟨a, ha, hR⟩
    · rw [h.taken x hP]
      rfl
    · rw [ha]
      exact (hf a ha).taken x hR

/-- Where neither step has a fault, the chain has none. -/
theorem Escaping.bind_none {f : α → Except Failure β} (h : Escaping (fun _ => False) r)
    (hf : ∀ a, Escaping (fun _ => False) (f a)) : Escaping (fun _ => False) (r >>= f) :=
  (h.bind fun a _ => hf a).congr fun x => by simp

end Escaping

/-! ## The file -/

/-- The path of a file cannot be followed: it starts at the home directory of nobody, or some name
on its way is none. -/
inductive PathEscapes (s : Surroundings) : Option Text → Fault → Prop
  | homeless {p : Text} {x : Fault} (nobody : Path.expandHome s.homes p = none)
      (fault : homeless p = .fault x) : PathEscapes s (some p) x
  | name {p q : Text} {why : DiskFault} (expanded : Path.expandHome s.homes p = some q)
      (fault : Disk.wayFault? p = some why) : PathEscapes s (some p) (.disk why p)

/-- Nobody's home directory is a fault, whatever the path. -/
theorem exists_homeless (p : Text) : ∃ x, homeless p = .fault x := by
  unfold homeless
  cases (Path.parts p).head? with
  | none => exact ⟨_, rfl⟩
  | some name =>
    rw [Option.bind_some, nameFault?]
    cases Disk.wayFault? name <;> exact ⟨_, rfl⟩

theorem escaping_filePath (s : Surroundings) (path : Option Text) :
    Escaping (PathEscapes s path) (filePath s path) where
  only f hf := by
    cases path with
    | none => cases hf
    | some p =>
      rw [filePath] at hf
      split at hf
      · next nobody =>
        cases hf
        obtain ⟨x, hx⟩ := exists_homeless p
        exact .inr ⟨x, hx, .homeless nobody hx⟩
      · next expanded hname =>
        cases hf
        obtain ⟨why, fault, rfl⟩ := Option.map_eq_some_iff.mp hname
        exact .inr ⟨_, rfl, .name expanded fault⟩
      · cases hf
  taken x hx := by
    rcases hx with ⟨nobody, fault⟩ | ⟨expanded, fault⟩
    · simp only [filePath, nobody, fault]
    · simp only [filePath, expanded, nameFault?, fault, Option.map_some]

/-- A file cannot be read: its name is too long, its octets are no text, its values are nested too
deep, or there is a numeral in it that is too long. -/
inductive FileEscapes (s : Surroundings) (file : Text) : Fault → Prop
  | longName (found : s.find file = .error .longName) : FileEscapes s file (.disk .longName file)
  | undecodable {bytes : Bytes} {why : Text.Utf8.Fault} (found : s.find file = .ok (.file bytes))
      (octets : Text.ofUtf8 bytes = .error why) : FileEscapes s file (.undecodable why)
  | nested {bytes : Bytes} {t : Text} (found : s.find file = .ok (.file bytes))
      (octets : Text.ofUtf8 bytes = .ok t) (deep : s.stack.exhausted t = true) :
      FileEscapes s file .tooDeep
  | longInteger {bytes : Bytes} {t : Text} (found : s.find file = .ok (.file bytes))
      (octets : Text.ofUtf8 bytes = .ok t) (room : s.stack.exhausted t = false)
      (numeral : Toml.read t = .error .longInteger) : FileEscapes s file .longInteger

theorem escaping_loadFile (s : Surroundings) (file : Text) (isRequired : Bool) :
    Escaping (FileEscapes s file) (loadFile s file isRequired) where
  only f hf := by
    rw [loadFile] at hf
    split at hf
    · next bytes found =>
      rw [readToml] at hf
      split at hf
      · next why octets =>
        cases hf
        exact .inr ⟨_, rfl, .undecodable found octets⟩
      · next t octets =>
        split at hf
        · next deep =>
          cases hf
          exact .inr ⟨_, rfl, .nested found octets deep⟩
        · next room =>
          split at hf
          · cases hf
          · exact .inl ⟨_, (Except.error.inj hf).symm⟩
          · next numeral =>
            cases hf
            exact .inr ⟨_, rfl, .longInteger found octets (Bool.eq_false_iff.mpr room) numeral⟩
    · exact .inl ⟨_, (Except.error.inj hf).symm⟩
    · next found =>
      cases hf
      exact .inr ⟨_, rfl, .longName found⟩
    · split at hf
      · exact .inl ⟨_, (Except.error.inj hf).symm⟩
      · cases hf
  taken x hx := by
    rcases hx with ⟨found⟩ | ⟨found, octets⟩ | ⟨found, octets, deep⟩ |
      ⟨found, octets, room, numeral⟩
    · simp only [loadFile, found]
    · simp only [loadFile, found, readToml, octets]
    · simp only [loadFile, found, readToml, octets, deep, if_true]
    · simp only [loadFile, found, readToml, octets, room, numeral, Bool.false_eq_true, if_false]

/-- A file holds tables, if anything. -/
theorem exists_sections {s : Surroundings} {file : Text} {isRequired : Bool} {payload : Data}
    (h : loadFile s file isRequired = .ok payload) : ∃ sections, payload = .dict sections := by
  rw [loadFile] at h
  split at h
  · rw [readToml] at h
    split at h
    · cases h
    · split at h
      · cases h
      · split at h
        · exact ⟨_, (Except.ok.inj h).symm⟩
        · cases h
        · cases h
  · cases h
  · cases h
  · split at h
    · cases h
    · exact ⟨_, (Except.ok.inj h).symm⟩

/-! ## The store root -/

/-- Every section is a table, and every key of it is that of a field. -/
def Recognised (sections : Intake.Fields) : Prop :=
  ∀ e ∈ sections, ∃ entries, e.2 = .dict entries ∧
    ∀ f ∈ entries, ∃ field, fieldOf e.1 f.1 = .ok field

theorem escaping_fieldOf (table key : Key) : Escaping (fun _ => False) (fieldOf table key) := by
  unfold fieldOf
  split
  · exact escaping_ok _
  · exact escaping_fail _

theorem escaping_addSection (table : Key) (entries flat : Intake.Fields) :
    Escaping (fun _ => False) (addSection table flat entries) := by
  induction entries generalizing flat with
  | nil => exact escaping_ok flat
  | cons e entries ih => exact (escaping_fieldOf table e.1).bind_none fun _ => ih _

theorem escaping_addSections (sections flat : Intake.Fields) :
    Escaping (fun _ => False) (addSections flat sections) := by
  induction sections generalizing flat with
  | nil => exact escaping_ok flat
  | cons e sections ih =>
    obtain ⟨table, d⟩ := e
    cases d with
    | dict entries => exact (escaping_addSection table entries flat).bind_none fun _ => ih _
    | _ => exact escaping_fail _

theorem exists_addSection_iff (table : Key) (entries flat : Intake.Fields) :
    (∃ flat', addSection table flat entries = .ok flat') ↔
      ∀ f ∈ entries, ∃ field, fieldOf table f.1 = .ok field := by
  induction entries generalizing flat with
  | nil => exact iff_of_true ⟨flat, rfl⟩ nofun
  | cons e entries ih =>
    rw [List.forall_mem_cons]
    constructor
    · rintro ⟨flat', h⟩
      obtain ⟨field, hfield, h⟩ := bind_eq_ok h
      exact ⟨⟨field, hfield⟩, (ih _).mp ⟨flat', h⟩⟩
    · rintro ⟨⟨field, hfield⟩, hrest⟩
      obtain ⟨flat', h⟩ := (ih (setEntry flat (.text field) e.2)).mpr hrest
      exact ⟨flat', by rw [addSection, hfield]; exact h⟩

theorem exists_addSections_iff (sections flat : Intake.Fields) :
    (∃ flat', addSections flat sections = .ok flat') ↔ Recognised sections := by
  induction sections generalizing flat with
  | nil => exact iff_of_true ⟨flat, rfl⟩ nofun
  | cons e sections ih =>
    obtain ⟨table, d⟩ := e
    rw [Recognised, List.forall_mem_cons]
    constructor
    · rintro ⟨flat', h⟩
      cases d with
      | dict entries =>
        obtain ⟨flat₁, hentries, h⟩ := bind_eq_ok h
        exact ⟨⟨entries, rfl, (exists_addSection_iff table entries flat).mp ⟨flat₁, hentries⟩⟩,
          (ih flat₁).mp ⟨flat', h⟩⟩
      | _ => cases h
    · rintro ⟨⟨entries, rfl, hentries⟩, hrest⟩
      obtain ⟨flat₁, hflat₁⟩ := (exists_addSection_iff table entries flat).mpr hentries
      obtain ⟨flat', h⟩ := (ih flat₁).mpr hrest
      exact ⟨flat', by rw [addSections, hflat₁]; exact h⟩

/-- A store root is no path, or it starts at the home directory of nobody. -/
inductive RootEscapes (homes : Path.Homes) : Data → Fault → Prop
  | kind {d : Data} (noText : ∀ t, d ≠ .text t) : RootEscapes homes d
      (.foreign "TypeError" ("a path cannot be made from " ++ d.kind))
  | homeless {t : Text} {x : Fault} (nobody : Path.expandHome homes t = none)
      (fault : homeless t = .fault x) : RootEscapes homes (.text t) x

theorem escaping_rootFrom (base : Text) (homes : Path.Homes) (d : Data) :
    Escaping (RootEscapes homes d) (rootFrom base homes d) where
  only f hf := by
    unfold rootFrom at hf
    split at hf
    · next t =>
      split at hf
      · cases hf
      · next nobody =>
        cases hf
        obtain ⟨x, hx⟩ := exists_homeless t
        exact .inr ⟨x, hx, .homeless nobody hx⟩
    · next noText =>
      cases hf
      exact .inr ⟨_, rfl, .kind noText⟩
  taken x hx := by
    rcases hx with ⟨noText⟩ | ⟨nobody, fault⟩
    · unfold rootFrom
      split
      · next t => exact absurd rfl (noText t)
      · rfl
    · simp only [rootFrom, nobody, fault]

theorem escaping_flatten {sections : Intake.Fields} (hdistinct : Toml.Distinct (.dict sections))
    (base : Text) (homes : Path.Homes) :
    Escaping (fun x => Recognised sections ∧
      ∃ d, Sources.entryAt? sections "store" "root" = some d ∧ RootEscapes homes d x)
      (flatten base homes (.dict sections)) := by
  have hplace : Sources.placeOf? "store_root" = some (("store" : Text), ("root" : Text)) := by
    decide
  unfold flatten
  refine ((escaping_addSections sections []).bind (R := fun _ x =>
    ∃ d, Sources.entryAt? sections "store" "root" = some d ∧ RootEscapes homes d x)
    fun flat hflat => ?_).congr fun x => ?_
  · have hvalue : valueAt? flat ("store_root" : Text) = Sources.entryAt? sections "store" "root" :=
      (valueAt?_addSections hplace hdistinct hflat).trans Option.or_none
    rw [hvalue]
    cases Sources.entryAt? sections "store" "root" with
    | none => exact (escaping_ok flat).congr fun x => by simp
    | some d =>
      exact ((escaping_rootFrom base homes d).bind fun _ _ => escaping_ok _).congr fun x => by simp
  · rw [← exists_addSections_iff sections []]
    simp

/-! ## The environment -/

/-- A value lacks what its field asks of texts: words are split at commas, and a truth value is
stripped of its blanks. Octets can be stripped, and split at octets only. -/
inductive ValueEscapes : Text → Data → Fault → Prop
  | octets {field : Text} {b : Bytes} (words : field = "block_commitment" ∨ field = "nonce") :
      ValueEscapes field (.bytes b)
        (.foreign "TypeError" "a bytes-like object is required, not 'str'")
  | split {field : Text} {d : Data} {x : Fault}
      (words : field = "block_commitment" ∨ field = "nonce") (noText : ∀ t, d ≠ .text t)
      (noOctets : ∀ b, d ≠ .bytes b) (fault : lacking "split" d = .fault x) :
      ValueEscapes field d x
  | strip {d : Data} {x : Fault} (noText : ∀ t, d ≠ .text t) (noOctets : ∀ b, d ≠ .bytes b)
      (fault : lacking "strip" d = .fault x) : ValueEscapes "fail_on_regression" d x

theorem escaping_wordsFrom {field : Text} (words : field = "block_commitment" ∨ field = "nonce")
    (name : Text) (d : Data) : Escaping (ValueEscapes field d) (wordsFrom name d) where
  only f hf := by
    unfold wordsFrom at hf
    split at hf
    · split at hf
      · cases hf
      · exact .inl ⟨_, (Except.error.inj hf).symm⟩
    · exact .inr ⟨_, (Except.error.inj hf).symm, .octets words⟩
    · next noText noOctets =>
      exact .inr ⟨_, (Except.error.inj hf).symm, .split words noText noOctets rfl⟩
  taken x hx := by
    rcases hx with - | ⟨-, noText, noOctets, fault⟩ | ⟨-, -, -⟩
    · rfl
    · unfold wordsFrom
      split
      · next t => exact absurd rfl (noText t)
      · next b => exact absurd rfl (noOctets b)
      · rw [fault]
    · rcases words with h | h <;> exact absurd h (by decide)

theorem escaping_truthFrom (d : Data) :
    Escaping (ValueEscapes "fail_on_regression" d) (truthFrom d) where
  only f hf := by
    unfold truthFrom at hf
    split at hf
    · split at hf
      · cases hf
      · exact .inl ⟨_, (Except.error.inj hf).symm⟩
    · exact .inl ⟨_, (Except.error.inj hf).symm⟩
    · next noText noOctets =>
      exact .inr ⟨_, (Except.error.inj hf).symm, .strip noText noOctets rfl⟩
  taken x hx := by
    rcases hx with words | ⟨words, -, -, -⟩ | ⟨noText, noOctets, fault⟩
    · rcases words with h | h <;> exact absurd h (by decide)
    · rcases words with h | h <;> exact absurd h (by decide)
    · unfold truthFrom
      split
      · next t => exact absurd rfl (noText t)
      · next b => exact absurd rfl (noOctets b)
      · rw [fault]

theorem escaping_fromVariable (field : Text) (raw : Data) :
    Escaping (ValueEscapes field raw) (fromVariable field raw) := by
  unfold fromVariable
  split
  · next words => exact escaping_wordsFrom words _ raw
  · next noWords =>
    split
    · next htruth => exact htruth ▸ escaping_truthFrom raw
    · next noTruth =>
      refine (escaping_ok raw).congr fun x => iff_of_false id ?_
      rintro (words | ⟨words, -, -, -⟩ | -)
      · exact noWords words
      · exact noWords words
      · exact noTruth rfl

/-- A variable has a value that its field can do nothing with; the variables before it are in
order. -/
inductive VariableEscapes (s : Surroundings) : List Text → Fault → Prop
  | here {field : Text} {rest : List Text} {raw : Data} {x : Fault}
      (value : s.variable? (variableOf field) = some raw) (fault : ValueEscapes field raw x) :
      VariableEscapes s (field :: rest) x
  | later {field : Text} {rest : List Text} {v : Option Data} {x : Fault}
      (inOrder : fromVariable? s field = .ok v) (later : VariableEscapes s rest x) :
      VariableEscapes s (field :: rest) x

theorem escaping_fromEnvironment (s : Surroundings) (fields : List Text) :
    Escaping (VariableEscapes s fields) (fromEnvironment s fields) := by
  induction fields with
  | nil => exact (escaping_ok []).congr fun x => ⟨False.elim, nofun⟩
  | cons field rest ih =>
    rw [fromEnvironment]
    split
    · next hnone =>
      have hfirst : fromVariable? s field = .ok none := by rw [fromVariable?, hnone]
      refine ih.congr fun x => ⟨.later hfirst, ?_⟩
      rintro (⟨value, -⟩ | ⟨-, later⟩)
      · cases hnone.symm.trans value
      · exact later
    · next raw hraw =>
      have hrest := (escaping_fromVariable field raw).bind fun v _ => ih.bind fun env _ =>
        escaping_ok ((.text field, v) :: env)
      refine hrest.congr fun x => ⟨?_, ?_⟩
      · rintro (fault | ⟨v, hv, later | ⟨-, -, ⟨⟩⟩⟩)
        · exact .here hraw fault
        · refine .later (v := some v) ?_ later
          simp only [fromVariable?, hraw, hv]
          rfl
      · rintro (⟨value, fault⟩ | ⟨inOrder, later⟩)
        · cases hraw.symm.trans value
          exact .inl fault
        · rw [fromVariable?, hraw] at inOrder
          obtain ⟨v, hv, -⟩ := map_eq_ok inOrder
          exact .inr ⟨v, hv, .inl later⟩

/-! ## Keys that are no texts -/

/-- Every key is a text. -/
def Worded (fields : Intake.Fields) : Prop := ∀ e ∈ fields, ∃ t, e.1 = .text t

theorem worded_setEntry_iff (fields : Intake.Fields) (k : Key) (v : Data) :
    Worded (setEntry fields k v) ↔ Worded fields ∧ ∃ t, k = .text t := by
  induction fields with
  | nil => simp [Worded, setEntry]
  | cons e fields ih =>
    obtain ⟨k', v'⟩ := e
    simp only [Worded, List.forall_mem_cons] at ih ⊢
    rw [setEntry]
    split
    · next hsame =>
      -- the entry keeps its key, which is a text when the new one is
      have htext : (∃ t, k' = .text t) → ∃ t, k = .text t := by
        rintro ⟨t, rfl⟩
        rw [Key.text_same, beq_iff_eq] at hsame
        exact ⟨t, hsame.symm⟩
      rw [List.forall_mem_cons]
      exact ⟨fun h => ⟨h, htext h.1⟩, And.left⟩
    · rw [List.forall_mem_cons, ih, and_assoc]

theorem worded_overlay_iff (below above : Intake.Fields) :
    Worded (overlay below above) ↔ Worded below ∧ Worded above := by
  induction above generalizing below with
  | nil => exact ⟨fun h => ⟨h, nofun⟩, And.left⟩
  | cons e above ih =>
    have hstep : overlay below (e :: above) = overlay (setEntry below e.1 e.2) above := rfl
    rw [hstep, ih, worded_setEntry_iff, and_assoc, Worded, Worded, Worded, List.forall_mem_cons]

theorem worded_addSection {table : Key} {entries flat flat' : Intake.Fields} (hflat : Worded flat)
    (h : addSection table flat entries = .ok flat') : Worded flat' := by
  induction entries generalizing flat with
  | nil =>
    cases h
    exact hflat
  | cons e entries ih =>
    obtain ⟨field, -, h⟩ := bind_eq_ok h
    exact ih ((worded_setEntry_iff ..).mpr ⟨hflat, _, rfl⟩) h

theorem worded_addSections {sections flat flat' : Intake.Fields} (hflat : Worded flat)
    (h : addSections flat sections = .ok flat') : Worded flat' := by
  induction sections generalizing flat with
  | nil =>
    cases h
    exact hflat
  | cons e sections ih =>
    obtain ⟨table, d⟩ := e
    cases d with
    | dict entries =>
      obtain ⟨flat₁, hflat₁, h⟩ := bind_eq_ok h
      exact ih (worded_addSection hflat hflat₁) h
    | _ => cases h

theorem worded_flatten {base : Text} {homes : Path.Homes} {payload : Data} {flat : Intake.Fields}
    (h : flatten base homes payload = .ok flat) : Worded flat := by
  unfold flatten at h
  split at h
  · obtain ⟨flat₀, hflat₀, h⟩ := bind_eq_ok h
    have hnone : Worded ([] : Intake.Fields) := nofun
    have hworded : Worded flat₀ := worded_addSections hnone hflat₀
    split at h
    · cases h
      exact hworded
    · obtain ⟨root, -, h⟩ := bind_eq_ok h
      cases h
      exact (worded_setEntry_iff ..).mpr ⟨hworded, _, rfl⟩
  · cases h

theorem worded_fromEnvironment {s : Surroundings} {fields : List Text} {env : Intake.Fields}
    (h : fromEnvironment s fields = .ok env) : Worded env := by
  intro e he
  obtain ⟨t, -, ht⟩ := List.mem_map.mp ((keys_fromEnvironment h).subset (List.mem_map_of_mem he))
  exact ⟨t, ht.symm⟩

/-- Of all sources only the command line may have a key that is no text. -/
theorem worded_gather {s : Surroundings} {path : Option Text} {overrides fields : Intake.Fields}
    (h : gather s path overrides = .ok fields) : Worded fields ↔ Worded (given overrides) := by
  obtain ⟨flat, hflat, h⟩ := bind_eq_ok h
  obtain ⟨env, henv, h⟩ := bind_eq_ok h
  cases h
  obtain ⟨file, -, hflat⟩ := bind_eq_ok hflat
  obtain ⟨payload, -, hflat⟩ := bind_eq_ok hflat
  rw [worded_overlay_iff, worded_overlay_iff]
  exact and_iff_right ⟨worded_flatten hflat, worded_fromEnvironment henv⟩

/-- What is said of a key that is no text. -/
def oddKey : Fault := .foreign "TypeError" "keywords must be strings"

theorem named_iff (fields : Intake.Fields) :
    (fields.all fun e => e.1.kind == Text.ofString "str") = true ↔ Worded fields := by
  have hkind : ∀ k : Key, (k.kind == Text.ofString "str") = true ↔ ∃ t, k = .text t := by
    intro k
    cases k with
    | text t => exact iff_of_true rfl ⟨t, rfl⟩
    | _ => exact iff_of_false Bool.false_ne_true nofun
  rw [List.all_eq_true, Worded]
  exact forall₂_congr fun e _ => hkind e.1

theorem named_of_worded {fields : Intake.Fields} (h : Worded fields) :
    Failure.named fields = .ok fields :=
  if_pos ((named_iff fields).mpr h)

theorem named_of_odd {fields : Intake.Fields} (h : ¬ Worded fields) :
    Failure.named fields = .error (.fault oddKey) :=
  if_neg fun hall => h ((named_iff fields).mp hall)

/-! ## The log level -/

theorem lt_of_upper_lt {c : Nat} (h : upper c < 0xD800) : c < 0xD800 := by
  by_contra hc
  have hlower : Text.isLower c = false := by
    rw [Text.isLower, Bool.and_eq_false_iff, decide_eq_false_iff_not, decide_eq_false_iff_not]
    omega
  rw [upper, if_neg (by omega), if_neg (by omega), Text.upper, hlower] at h
  exact hc h

/-- The name of a log level has octets, in any case. -/
theorem scalar_of_level {t : Text} (h : levelNames.contains (t.map upper) = true) : t.Scalar := by
  have hnames : ∀ name ∈ levelNames, ∀ c ∈ name, c < 0xD800 := by decide
  rw [List.contains_iff_mem] at h
  exact Text.Utf8.scalar_of_lt fun c hc => lt_of_upper_lt (hnames _ h _ (List.mem_map_of_mem hc))

/-- What cannot be told of a log level: a text that names none is repeated, octets or not. -/
def levelSurrogates : Data → List Text.Unencodable
  | .text t => if t.Scalar then [] else [.locate 0 (unknownLevelMessage t)]
  | _ => []

theorem surrogates_checkLevel (d : Data) : surrogates (checkLevel d) = levelSurrogates d := by
  have hmessage : ∀ t, (unknownLevelMessage t).Scalar ↔ t.Scalar := by
    intro t
    rw [unknownLevelMessage, Text.scalar_append_iff, Text.scalar_append_iff]
    exact ⟨fun h => h.1.2, fun h => ⟨⟨by decide, h⟩, by decide⟩⟩
  have htext : ∀ t, Intake.text d = .ok t → surrogates (checkLevel d) =
      if t.Scalar then [] else [.locate 0 (unknownLevelMessage t)] := by
    intro t ht
    rw [checkLevel, ht]
    simp only [bind, Except.bind]
    split
    · next hlevel => exact (if_pos (scalar_of_level hlevel)).symm
    · rw [surrogates_fail_rule]
      simp only [hmessage]
  cases d with
  | text t => exact htext t rfl
  | bytes b =>
    cases hread : Text.ofUtf8 b with
    | ok t =>
      have ht : Intake.text (.bytes b) = .ok t := by rw [Intake.text, hread]
      rw [htext t ht, if_pos (Text.Utf8.encode_of_decode hread).1]
      rfl
    | error _ =>
      have hfail : Intake.text (.bytes b) = .fail .undecodableText (.bytes b) := by
        rw [Intake.text, hread]
      rw [checkLevel, hfail]
      rfl
  | _ => rfl

theorem told_checkPath (d : Data) : Told (checkPath d) := by
  unfold checkPath
  split
  · exact told_ok _
  · exact told_fail_iff.mpr rfl

/-- Of the fields of a configuration only the log level may be more than can be told. -/
theorem surrogates_ofFields (fields : Intake.Fields) :
    surrogates (ofFields fields) =
      ((valueAt? fields ("log_level" : Text)).map levelSurrogates).getD [] := by
  have hlevel : surrogates (Intake.optional fields "log_level" default.logLevel checkLevel) =
      ((valueAt? fields ("log_level" : Text)).map levelSurrogates).getD [] := by
    unfold Intake.optional
    cases valueAt? fields ("log_level" : Text) with
    | none => rfl
    | some d => exact (surrogates_under _ _).trans (surrogates_checkLevel d)
  have hnone : ∀ {α : Type} {check : Data → Checked α} (name : Text) (default : α),
      (∀ d, Told (check d)) → surrogates (Intake.optional fields name default check) = [] :=
    fun _ _ h => surrogates_eq_nil_iff.mpr (told_optional h)
  have hwords : ∀ d, Told (checkWords d) := told_sequence (by nofun) told_int
  rw [ofFields, surrogates_map, surrogates_closed]
  simp only [surrogates_both, hlevel, hnone _ _ told_checkPath, hnone _ _ told_positive,
    hnone _ _ told_bool, hnone _ _ told_text, hnone _ _ told_nat, hnone _ _ hwords,
    List.nil_append]

/-- The fields give a log level that is no text with octets. -/
def LevelEscapes (fields : Intake.Fields) (x : Fault) : Prop :=
  ∃ t, valueAt? fields ("log_level" : Text) = some (.text t) ∧ ¬ t.Scalar ∧
    x = .unencodable (.locate 0 (unknownLevelMessage t))

theorem levelEscapes_iff (fields : Intake.Fields) (points : Text.Unencodable) :
    LevelEscapes fields (.unencodable points) ↔
      (surrogates (ofFields fields)).head? = some points := by
  rw [surrogates_ofFields, LevelEscapes]
  constructor
  · rintro ⟨t, ht, hsurrogate, hpoints⟩
    rw [ht, Fault.unencodable.inj hpoints, Option.map_some, Option.getD_some, levelSurrogates,
      if_neg hsurrogate, List.head?_cons]
  · intro h
    cases hd : valueAt? fields ("log_level" : Text) with
    | none =>
      rw [hd] at h
      cases h
    | some d =>
      rw [hd, Option.map_some, Option.getD_some] at h
      unfold levelSurrogates at h
      split at h
      · next t =>
        split at h
        · cases h
        · next hsurrogate =>
          cases h
          exact ⟨t, rfl, hsurrogate, rfl⟩
      · cases h

theorem escaping_settle (fields : Intake.Fields) :
    Escaping (LevelEscapes fields) ((settle fields).mapError .ofInvalidConfig) where
  only f hf := by
    obtain ⟨r, hr, rfl⟩ := mapError_eq_error hf
    rw [Failure.ofInvalidConfig]
    cases hpoints : r.unencodable? with
    | none => exact .inl ⟨_, rfl⟩
    | some points =>
      refine .inr ⟨_, rfl, (levelEscapes_iff fields points).mpr ?_⟩
      rcases bind_eq_error hr with hbuild | ⟨c, -, hinput⟩
      · rw [← hpoints]
        exact (unencodable?_of_refusal hbuild).symm
      · rcases bind_eq_error hinput with hinput | ⟨i, -, hi⟩
        · have htold := (told_iff_of_refusal hinput).mpr (ProveInput.told_ofFields _)
          cases hpoints.symm.trans htold
        · cases hi
  taken x hx := by
    obtain ⟨t, -, -, rfl⟩ := id hx
    have hpoints := (levelEscapes_iff fields _).mp hx
    cases hissues : ofFields fields with
    | ok c =>
      rw [hissues] at hpoints
      cases hpoints
    | error es =>
      have hbuild : build fields = .error ⟨modelName, es⟩ := by
        rw [build, hissues]
        rfl
      have hsettle : settle fields = .error ⟨modelName, es⟩ := by
        rw [settle, hbuild]
        rfl
      rw [hsettle]
      simp only [Except.mapError, Failure.ofInvalidConfig, unencodable?_of_refusal hbuild, hpoints]

/-! ## All ways out -/

/-- How the fields of the file cannot be had, though nothing is wrong with what it configures. -/
inductive FlatEscapes (s : Surroundings) (path : Option Text) : Fault → Prop
  | path {x : Fault} (fault : PathEscapes s path x) : FlatEscapes s path x
  | file {file : Text} {x : Fault} (found : filePath s path = .ok file)
      (fault : FileEscapes s file x) : FlatEscapes s path x
  | root {file : Text} {sections : Intake.Fields} {d : Data} {x : Fault}
      (found : filePath s path = .ok file)
      (read : loadFile s file path.isSome = .ok (.dict sections)) (known : Recognised sections)
      (given : Sources.entryAt? sections "store" "root" = some d)
      (fault : RootEscapes s.homes d x) : FlatEscapes s path x

theorem escaping_fromFile (s : Surroundings) (path : Option Text) :
    Escaping (FlatEscapes s path) (fromFile s path) := by
  have hflatten : ∀ file payload, loadFile s file path.isSome = .ok payload →
      Escaping (fun x => ∃ sections, payload = .dict sections ∧ Recognised sections ∧
        ∃ d, Sources.entryAt? sections "store" "root" = some d ∧ RootEscapes s.homes d x)
        (flatten (Path.parent file) s.homes payload) := by
    intro file payload hpayload
    obtain ⟨sections, rfl⟩ := exists_sections hpayload
    exact (escaping_flatten (distinct_loadFile hpayload) _ _).congr fun x => by simp
  refine ((escaping_filePath s path).bind fun file _ =>
    (escaping_loadFile s file path.isSome).bind (hflatten file)).congr fun x => ⟨?_, ?_⟩
  · rintro (fault | ⟨file, found, fault | ⟨-, read, sections, rfl, known, d, given, fault⟩⟩)
    · exact .path fault
    · exact .file found fault
    · exact .root found read known given fault
  · rintro (fault | ⟨found, fault⟩ | ⟨found, read, known, given, fault⟩)
    · exact .inl fault
    · exact .inr ⟨_, found, .inl fault⟩
    · exact .inr ⟨_, found, .inr ⟨_, read, _, rfl, known, _, given, fault⟩⟩

/-- How loading a configuration ends when the configuration is neither given nor refused. -/
inductive Escapes (s : Surroundings) (path : Option Text) (overrides : Intake.Fields) :
    Fault → Prop
  | file {x : Fault} (fault : FlatEscapes s path x) : Escapes s path overrides x
  | environment {flat : Intake.Fields} {x : Fault} (read : fromFile s path = .ok flat)
      (fault : VariableEscapes s fieldNames x) : Escapes s path overrides x
  | key {fields : Intake.Fields} (gathered : gather s path overrides = .ok fields)
      (odd : ¬ Worded (given overrides)) : Escapes s path overrides oddKey
  | level {fields : Intake.Fields} {x : Fault} (gathered : gather s path overrides = .ok fields)
      (named : Worded (given overrides)) (fault : LevelEscapes fields x) :
      Escapes s path overrides x

/-- Loading a configuration ends in the faults that are listed, and otherwise it ends well or in an
error of the configuration. -/
theorem escaping_load (s : Surroundings) (path : Option Text) (overrides : Intake.Fields) :
    Escaping (Escapes s path overrides) (load s path overrides) := by
  have hgather : Escaping
      (fun x => FlatEscapes s path x ∨
        ∃ flat, fromFile s path = .ok flat ∧ VariableEscapes s fieldNames x)
      (gather s path overrides) := by
    refine (escaping_fromFile s path).bind fun flat _ => ?_
    exact ((escaping_fromEnvironment s fieldNames).bind fun env _ => escaping_ok _).congr
      fun x => by simp
  have hsettle : ∀ fields, gather s path overrides = .ok fields →
      Escaping (fun x => (¬ Worded (given overrides) ∧ x = oddKey) ∨
        (Worded (given overrides) ∧ LevelEscapes fields x))
        (Failure.named fields >>= fun fields => (settle fields).mapError .ofInvalidConfig) := by
    intro fields hfields
    rw [← worded_gather hfields]
    by_cases hworded : Worded fields
    · rw [named_of_worded hworded]
      exact (escaping_settle fields).congr fun x => by simp [hworded]
    · rw [named_of_odd hworded]
      exact (escaping_error oddKey).congr fun x => by simp [hworded]
  refine (hgather.bind hsettle).congr fun x => ⟨?_, ?_⟩
  · rintro ((fault | ⟨flat, read, fault⟩) | ⟨fields, gathered, ⟨odd, rfl⟩ | ⟨named, fault⟩⟩)
    · exact .file fault
    · exact .environment read fault
    · exact .key gathered odd
    · exact .level gathered named fault
  · rintro (fault | ⟨read, fault⟩ | ⟨gathered, odd⟩ | ⟨gathered, named, fault⟩)
    · exact .inl (.inl fault)
    · exact .inl (.inr ⟨_, read, fault⟩)
    · exact .inr ⟨_, gathered, .inl ⟨odd, rfl⟩⟩
    · exact .inr ⟨_, gathered, .inr ⟨named, fault⟩⟩

/-! ## Nested files -/

theorem homeless_ne_tooDeep (p : Text) : homeless p ≠ .fault .tooDeep := by
  unfold homeless
  cases (Path.parts p).head? with
  | none => nofun
  | some name =>
    rw [Option.bind_some, nameFault?]
    cases Disk.wayFault? name <;> nofun

theorem ValueEscapes.ne_tooDeep {field : Text} {d : Data} {x : Fault}
    (h : ValueEscapes field d x) : x ≠ .tooDeep := by
  rintro rfl
  rcases h with - | ⟨-, -, -, fault⟩ | ⟨-, -, fault⟩ <;> cases fault

theorem VariableEscapes.ne_tooDeep {s : Surroundings} {fields : List Text} {x : Fault}
    (h : VariableEscapes s fields x) : x ≠ .tooDeep := by
  induction h with
  | here _ fault => exact fault.ne_tooDeep
  | later _ _ ih => exact ih

/-- Values that are nested too deep are those of the file, and it opens more of them than there is
room for. -/
theorem Escapes.room_lt {s : Surroundings} {path : Option Text} {overrides : Intake.Fields}
    (h : Escapes s path overrides .tooDeep) : ∃ file bytes t, filePath s path = .ok file ∧
      s.find file = .ok (.file bytes) ∧ Text.ofUtf8 bytes = .ok t ∧
      s.stack.room < Text.openings t := by
  cases h with
  | file fault =>
    cases fault with
    | path fault =>
      cases fault with
      | homeless _ fault => exact absurd fault (homeless_ne_tooDeep _)
    | file found fault =>
      cases fault with
      | nested read octets deep =>
        refine ⟨_, _, _, found, read, octets, ?_⟩
        by_contra hroom
        cases (s.stack.enough _ (Nat.not_lt.mp hroom)).symm.trans deep
    | root _ _ _ _ fault =>
      cases fault with
      | homeless _ fault => exact absurd fault (homeless_ne_tooDeep _)
  | environment _ fault => exact absurd rfl fault.ne_tooDeep
  | level _ _ fault =>
    obtain ⟨t, -, -, hx⟩ := fault
    cases hx

end ProofLedger.Config
