import ProofLedger.CommandLine.Execute
import ProofLedger.Proofs.Config.Escapes

/-!
# Requests without a configuration

Whoever gets the exit status for usage from a command takes the configuration to be at fault. The
converse fails: `configuring` lists the configurations that are at fault and end in something else,
for whoever loads one and for the command line, and says that there are no others. A file with an
octet that is no text is one of them (`configuring_smudged`), and so is a file whose values are
nested deeper than the machinery underneath has room for, wherever that may be.
-/

namespace ProofLedger.CommandLine

open Config (Surroundings load Escaping escaping_load)

/-- How the configuration of a request is neither had nor refused. -/
inductive Escapes (s : Surroundings) (o : Options) : Fault → Prop
  | blank {x : Fault} (left : o.config = some .blank) (fault : blankPath = .fault x) : Escapes s o x
  | loading {path : Option Text} {x : Fault} (named : o.config = path.map .value)
      (fault : Config.Escapes s path (overrides o) x) : Escapes s o x

theorem configure_of_named {o : Options} {path : Option Text} (h : o.config = path.map .value)
    (s : Surroundings) : configure s o = load s path (overrides o) := by
  cases path <;> rw [configure, h] <;> rfl

theorem escaping_configure (s : Surroundings) (o : Options) :
    Escaping (Escapes s o) (configure s o) := by
  have hloading : ∀ path : Option Text, o.config = path.map .value →
      Escaping (Escapes s o) (configure s o) := by
    intro path hpath
    rw [configure_of_named hpath]
    refine (escaping_load s path (overrides o)).congr fun x => ⟨.loading hpath, ?_⟩
    rintro (⟨left, -⟩ | ⟨named, fault⟩)
    · rw [hpath] at left
      cases path <;> cases left
    · rw [hpath] at named
      rwa [Option.map_injective (fun _ _ => Given.value.inj) named]
  rcases hconfig : o.config with _ | (_ | p)
  · exact hloading none hconfig
  · have hblank : configure s o = .error blankPath := by rw [configure, hconfig]
    rw [hblank]
    refine (Config.escaping_error _).congr fun x => ⟨?_, ?_⟩
    · rintro rfl
      exact .blank hconfig rfl
    · rintro (⟨-, fault⟩ | @⟨path, _, named, -⟩)
      · exact (Failure.fault.inj fault).symm
      · rw [hconfig] at named
        cases path <;> cases named
  · exact hloading (some p) hconfig

/-- Loading a configuration ends well or in an error of the configuration exactly when there is no
way out, and otherwise in the fault of one; a file that is nested too deep opens more values than
there is room for. The same holds of the configuration of a request, and the exit status for usage
stands for just the errors of the configuration. -/
theorem configuring (s : Surroundings) :
    (∀ path overrides,
      ((∃ c, load s path overrides = .ok c) ∨
          (∃ c, load s path overrides = .error (.ledger (.config c))) ↔
        ∀ x, ¬ Config.Escapes s path overrides x) ∧
      (∀ x, load s path overrides = .error (.fault x) ↔ Config.Escapes s path overrides x) ∧
      (load s path overrides = .error (.fault .tooDeep) →
        ∃ file bytes t, Config.filePath s path = .ok file ∧ s.find file = .ok (.file bytes) ∧
          Text.ofUtf8 bytes = .ok t ∧ s.stack.room < Text.openings t)) ∧
    ∀ o,
      ((∃ c, configure s o = .ok c) ∨
          (∃ f, configure s o = .error f ∧ (decline f).2 = usageStatus) ↔
        ∀ x, ¬ Escapes s o x) ∧
      ∀ x, configure s o = .error (.fault x) ↔ Escapes s o x := by
  refine ⟨fun path overrides => ?_, fun o => ?_⟩
  · have h := escaping_load s path overrides
    exact ⟨h.clear_iff.symm, h.iff, fun hdeep => ((h.iff _).mp hdeep).room_lt⟩
  · have h := escaping_configure s o
    have hstatus : (∃ f, configure s o = .error f ∧ (decline f).2 = usageStatus) ↔
        ∃ c, configure s o = .error (.ledger (.config c)) := by
      constructor
      · rintro ⟨f, hf, hstatus⟩
        rcases h.only f hf with ⟨c, rfl⟩ | ⟨x, rfl, -⟩
        · exact ⟨c, hf⟩
        · cases hstatus
      · rintro ⟨c, hc⟩
        exact ⟨_, hc, rfl⟩
    rw [hstatus]
    exact ⟨h.clear_iff.symm, h.iff⟩

/-- Every file holds a single octet, which is no text. -/
def smudged : Surroundings where
  directory := "/work"
  homes := []
  environment := []
  find _ := .ok (.file [0xFF])

/-- The file is no configuration, and nobody is told so. -/
theorem configuring_smudged :
    (¬ ((∃ c, load smudged none [] = .ok c) ∨
      ∃ c, load smudged none [] = .error (.ledger (.config c)))) ∧
    ∃ f, configure smudged .none = .error f ∧ (decline f).2 ≠ usageStatus := by
  have hload : ∃ x, load smudged none [] = .error (.fault x) := ⟨_, rfl⟩
  obtain ⟨x, hx⟩ := hload
  refine ⟨?_, _, rfl, by decide⟩
  rintro (⟨c, hc⟩ | ⟨c, hc⟩)
  · cases hx.symm.trans hc
  · cases hx.symm.trans hc

end ProofLedger.CommandLine
