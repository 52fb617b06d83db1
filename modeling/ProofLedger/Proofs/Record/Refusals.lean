import ProofLedger.Proofs.Intake.Told
import ProofLedger.Proofs.Record.Rewriting
import ProofLedger.Proofs.Store.Acts
import ProofLedger.Run.Pipeline

/-!
# How reading a record fails

A record that cannot be read is an error of the ledger whose code says that the record is invalid.
Four kinds of damage escape that (`Source.Escapes`): octets that are no text, a numeral of too
many digits, lists and dictionaries nested more deeply than there is room for, and a timestamp
with a lone surrogate. The message on the last one repeats the timestamp and has no octets then;
no other field of a document has such a message (`told_assemble_iff`).

`refusals` says that there is no other way out, and that whoever asks for the record of a name
(`Reported`) gets to know the failure as it is.
-/

namespace ProofLedger

open Checked Intake

/-! ## The fields of a document -/

/-- A count and a word out of range are all that is said of words. -/
theorem Words.told_check {field : Text} (hfield : field.Scalar) (d : Data) :
    Told (check field d) := by
  refine (told_sequence (by nofun) told_int d).bind fun xs _ => ?_
  split
  · exact told_ok _
  · split
    · refine told_fail_iff.mpr (Issue.unencodable?_rule_iff.mpr ?_)
      rw [rangeMessage]
      split
      · refine Text.scalar_append (Text.scalar_append (Text.scalar_append hfield ?_) ?_) ?_
        · decide
        · exact Text.scalar_ofInt _
        · decide
      · decide
    · refine told_fail_iff.mpr (Issue.unencodable?_rule_iff.mpr ?_)
      refine Text.scalar_append (Text.scalar_append hfield ?_) (Text.scalar_ofInt (.ofNat _))
      decide

theorem ProveInput.told_ofFields (fields : Fields) : Told (ofFields fields) := by
  have hwords : ∀ field : Text, field.Scalar →
      Told (required fields field (Words.check field)) :=
    fun field hfield => told_required (Words.told_check hfield)
  have hlength : Told (required fields "length" nat) := told_required told_nat
  have hcommitment := hwords "block_commitment" (by decide)
  have hnonce := hwords "nonce" (by decide)
  exact (told_closed ((hlength.both hcommitment).both hnonce)).map _

theorem ProofObject.told_checkData (d : Data) : Told (checkData d) := by
  refine (told_text d).bind fun t _ => ?_
  split
  · exact told_ok _
  · exact told_fail_iff.mpr (Issue.unencodable?_rule_iff.mpr (by decide))

theorem ProofObject.told_ofFields (fields : Fields) : Told (ofFields fields) := by
  have htag : Told (required fields "type" name) := told_required told_name
  have hdata : Told (required fields "data" checkData) := told_required told_checkData
  exact (told_closed (htag.both hdata)).map _

theorem InputDocument.told_check (d : Data) : Told (check d) := by
  refine told_model (fun fields => ?_) d
  have hints : ∀ name, Told (required fields name (sequence .notList int)) :=
    fun name => told_required (told_sequence (by nofun) told_int)
  have hlength : Told (required fields "length" nat) := told_required told_nat
  exact (told_closed ((hlength.both (hints _)).both (hints _))).map _

theorem ObjectDocument.told_check (d : Data) : Told (check d) := by
  refine told_model (fun fields => ?_) d
  have htext : ∀ name, Told (required fields name text) := fun name => told_required told_text
  exact (told_closed ((htext _).both (htext _))).map _

/-- The form of a document is checked without any rule. -/
theorem RecordDocument.told_ofFields (fields : Fields) : Told (ofFields fields) := by
  have htext : ∀ name, Told (required fields name text) := fun name => told_required told_text
  have hliteral : ∀ name expected, Told (optional fields name expected (literal expected)) :=
    fun name expected => told_optional (told_literal expected)
  have hinput : Told (required fields "input" InputDocument.check) :=
    told_required InputDocument.told_check
  have hduration : Told (required fields "duration_secs" double) := told_required told_double
  have hproof : Told (required fields "proof" (sequence .notList ObjectDocument.check)) :=
    told_required (told_sequence (by nofun) ObjectDocument.told_check)
  have hheads := ((hliteral "format" recordFormat).both (hliteral "version" recordVersion)).both
    ((htext "record_id").both hinput)
  have hmiddle := (hduration.both (htext "proof_hash")).both
    ((htext "timestamp").both (htext "test_name"))
  exact (told_closed ((hheads.both hmiddle).both ((htext "source_branch").both hproof))).map _

/-! ## The timestamp -/

/-- A text with a lone surrogate that is no timestamp of a record. -/
structure Timestamp.Broken (t : Text) : Prop where
  surrogate : ¬ t.Scalar
  unaware : ∀ m, Moment.parse? t = some m → m.isAware = false

/-- What is said of a text that is no timestamp repeats the text. -/
theorem Timestamp.told_check_iff (t : Text) : Told (check (.text t)) ↔ ¬ Broken t := by
  have hmessage : ∀ before : Text, before.Scalar → ∀ d : Data,
      (Told (.fail (.rule (before ++ t ++ ("'" : Text))) d : Checked Timestamp) ↔ t.Scalar) := by
    intro before hbefore d
    rw [told_fail_iff, Issue.unencodable?_rule_iff, Text.scalar_append_iff, Text.scalar_append_iff]
    exact ⟨fun h => h.1.2, fun h => ⟨⟨hbefore, h⟩, by decide⟩⟩
  have hbroken : (∀ m, Moment.parse? t = some m → m.isAware = false) → (t.Scalar ↔ ¬ Broken t) :=
    fun hunaware => ⟨fun h hbroken => hbroken.surrogate h, fun h => by_contra fun hsurrogate =>
      h ⟨hsurrogate, hunaware⟩⟩
  simp only [check, Intake.text, bind, Except.bind]
  -- Both messages are a text around the timestamp, so what matters is the timestamp.
  split
  · next hnone =>
    refine (hmessage _ (by decide) _).trans (hbroken fun m hm => ?_)
    rw [hnone] at hm
    cases hm
  · next m hm =>
    split
    · next haware =>
      refine iff_of_true (told_ok _) fun hbroken => ?_
      rw [hbroken.unaware m hm] at haware
      cases haware
    · next hunaware =>
      refine (hmessage _ (by decide) _).trans (hbroken fun m' hm' => ?_)
      cases hm.symm.trans hm'
      exact Bool.not_eq_true _ ▸ hunaware

/-- Of the fields of a record only the timestamp may be more than can be told. -/
theorem ProofRecord.told_assemble_iff {fields : Fields} {t : Text}
    (hdeclared : ∀ e ∈ fields, isDeclared fieldNames e.1 = true)
    (ht : valueAt? fields "timestamp" = some (.text t)) (input : ProveInput)
    (objects : List ProofObject) :
    Told (assemble fields (.ok input) (.ok objects)) ↔ ¬ Timestamp.Broken t := by
  have hname : ∀ n, Told (required fields n name) := fun n => told_required told_name
  have hduration : Told (required fields "duration_secs" nonNegative) :=
    told_required told_nonNegative
  have hlabel : Told (required fields "source_label" text) := told_required told_text
  have htest : Told (optional fields "test_name" [] text) := told_optional told_text
  rw [assemble, closed_of_declared hdeclared, told_map_iff, ← Timestamp.told_check_iff,
    ← told_required_iff ht]
  constructor
  · intro h
    have hmiddle := (told_both_iff.mp (told_both_iff.mp h).1).2
    exact (told_both_iff.mp hmiddle).2
  · intro htimestamp
    have hheads := ((hname "record_id").both (told_ok input)).both (told_ok objects)
    have hmiddle := ((hname "proof_hash").both hduration).both htimestamp
    exact (hheads.both hmiddle).both (hlabel.both htest)

namespace RecordDocument

/-- A document of which only the timestamp is looked at, and it is broken. -/
structure Untold (doc : RecordDocument) : Prop where
  input : ∃ input, ProveInput.build doc.input.toFields = .ok input
  objects : ∃ objects, doc.proof.mapM ObjectDocument.toObject = .ok objects
  broken : Timestamp.Broken doc.timestamp

/-- The fields of the record apart from its input and its objects. -/
def others (doc : RecordDocument) : Fields :=
  [(("record_id" : Text), .text doc.id), (("proof_hash" : Text), .text doc.proofHash),
    (("duration_secs" : Text), .double doc.duration), (("timestamp" : Text), .text doc.timestamp),
    (("source_label" : Text), .text doc.sourceBranch), (("test_name" : Text), .text doc.testName)]

theorem told_others_iff (doc : RecordDocument) (input : ProveInput) (objects : List ProofObject) :
    Told (ProofRecord.assemble doc.others (.ok input) (.ok objects)) ↔
      ¬ Timestamp.Broken doc.timestamp := by
  refine ProofRecord.told_assemble_iff (fun e he => ?_) rfl input objects
  simp only [others, List.mem_cons, List.not_mem_nil, or_false] at he
  rcases he with rfl | rfl | rfl | rfl | rfl | rfl <;> rfl

/-- What comes before the timestamp is refused with words that can be told. -/
theorem untold_of_toRecord {doc : RecordDocument} {r : Refusal} (h : doc.toRecord = .error r)
    (huntold : r.unencodable? ≠ none) : doc.Untold := by
  rcases bind_eq_error h with hinput | ⟨input, hinput, h⟩
  · exact absurd ((told_iff_of_refusal hinput).mpr (ProveInput.told_ofFields _)) huntold
  · rcases bind_eq_error h with hobjects | ⟨objects, hobjects, h⟩
    · obtain ⟨o, -, hobject⟩ := exists_of_mapM_eq_error hobjects
      exact absurd ((told_iff_of_refusal hobject).mpr (ProofObject.told_ofFields _)) huntold
    · refine ⟨⟨input, hinput⟩, ⟨objects, hobjects⟩, ?_⟩
      by_contra hbroken
      exact huntold ((told_iff_of_refusal h).mpr ((told_others_iff doc input objects).mpr hbroken))

theorem Untold.exists_refusal {doc : RecordDocument} (h : doc.Untold) :
    ∃ r points, doc.toRecord = .error r ∧ r.unencodable? = some points := by
  obtain ⟨⟨input, hinput⟩, ⟨objects, hobjects⟩, hbroken⟩ := h
  have huntold : ¬ Told (ProofRecord.assemble doc.others (.ok input) (.ok objects)) :=
    fun htold => (told_others_iff doc input objects).mp htold hbroken
  have hrecord : doc.toRecord = ProofRecord.buildWith input objects doc.others := by
    rw [toRecord, hinput, hobjects]
    rfl
  rcases hbuild : ProofRecord.buildWith input objects doc.others with r | record
  · rcases hpoints : r.unencodable? with _ | points
    · exact absurd ((told_iff_of_refusal hbuild).mp hpoints) huntold
    · exact ⟨r, points, hrecord.trans hbuild, hpoints⟩
  · rw [mapError_eq_ok hbuild] at huntold
    exact absurd (told_ok record) huntold

end RecordDocument

/-! ## Ways to fail -/

namespace Source

/-- What a caller is given, where there is so much room for nested values. -/
def answer (s : Source) (room : Json.Room := none) : Except Failure ProofRecord :=
  (s.load room).mapError .ofLoadFault

/-- The text that is read, if there is one. -/
def text? : Source → Option Text
  | .text t => some t
  | .octets b => Json.decode? b

/-- Damage that ends in a fault and not in an error of the ledger. -/
inductive Escapes (s : Source) (room : Json.Room) : Fault → Prop
  | undecodable (h : s.text? = none) : Escapes s room .undecodableDocument
  | longInteger {t : Text} (h : s.document room = .error .longInteger) (ht : s.text? = some t)
    (hlong : Json.HasLongRun t) : Escapes s room .longInteger
  | nested {t : Text} (h : s.document room = .error .tooDeep) (ht : s.text? = some t)
    (hdeep : Json.Crowds room t) : Escapes s room .tooDeep
  | timestamp {es : List (Text × Json)} {doc : RecordDocument} {points : Text.Unencodable}
    (hs : s.document room = .ok (.dict es))
    (hdoc : RecordDocument.check (Json.dict es).toData = .ok doc) (h : doc.Untold) :
    Escapes s room (.unencodable points)

/-- How reading may fail: the record is said to be invalid, or the damage escapes that. -/
inductive Fails (s : Source) (room : Json.Room) : Failure → Prop
  | invalid {e : LedgerError} (h : e.code = .invalidRecord) : Fails s room (.ledger e)
  | escapes {x : Fault} (h : s.Escapes room x) : Fails s room (.fault x)

variable {s : Source} {room : Json.Room}

theorem answer_of_document {f : LoadFault} (h : s.document room = .error f) :
    s.answer room = .error (.ofLoadFault f) := by
  rw [answer, s.load_eq, h]
  rfl

theorem document_of_undecodable (h : s.text? = none) : s.document room = .error .undecodable := by
  cases s with
  | text t => cases h
  | octets b =>
    have hread : Json.readBytes b room = .error .undecodable := by
      rw [Json.readBytes_eq, show Json.decode? b = none from h]
    rw [document, hread]
    rfl

/-- What a text is refused for is in the text. -/
theorem fails_of_bounds {f : Json.ReadFault} (h : s.document room = .error (.ofReadFault f))
    {t : Text} (ht : s.text? = some t) {result : Except Json.ReadFault Json}
    (hresult : result = .error f) (hbounds : Json.Bounds room t result) :
    s.Fails room (.ofLoadFault (.ofReadFault f)) := by
  cases f with
  | problem what line column position => exact .invalid rfl
  | longInteger => exact .escapes (.longInteger h ht (hbounds.long hresult))
  | tooDeep => exact .escapes (.nested h ht (hbounds.deep hresult))

/-- How a document fails to be read. -/
theorem fails_of_document {f : LoadFault} (h : s.document room = .error f) :
    s.Fails room (.ofLoadFault f) := by
  cases s with
  | text t =>
    obtain ⟨e, hread, rfl⟩ := mapError_eq_error h
    exact fails_of_bounds h rfl hread (Json.read_bounds t room)
  | octets b =>
    obtain ⟨e, hread, rfl⟩ := mapError_eq_error h
    rw [Json.readBytes_eq] at hread
    split at hread
    · next hnone =>
      cases hread
      exact .escapes (.undecodable hnone)
    · next t ht =>
      obtain ⟨e', hwhole, rfl⟩ := mapError_eq_error hread
      exact fails_of_bounds h ht hwhole (Json.readWhole_bounds t room)

/-- How a document fails to describe a record. -/
theorem fails_of_ofJson {j : Json} (hs : s.document room = .ok j) {f : LoadFault}
    (h : ProofRecord.ofJson j = .error f) : s.Fails room (.ofLoadFault f) := by
  cases j with
  | dict es =>
    obtain ⟨r, hr, rfl⟩ := mapError_eq_error h
    rw [Failure.ofLoadFault, Failure.ofMalformed]
    rcases hpoints : r.unencodable? with _ | points
    · exact .invalid rfl
    · rcases bind_eq_error hr with hcheck | ⟨doc, hdoc, hrecord⟩
      · have htold := (told_iff_of_refusal hcheck).mpr (told_model RecordDocument.told_ofFields _)
        cases hpoints.symm.trans htold
      · have hsome : r.unencodable? ≠ none := by
          rw [hpoints]
          exact Option.some_ne_none points
        exact .escapes (.timestamp hs hdoc (RecordDocument.untold_of_toRecord hrecord hsome))
  | _ =>
    cases h
    exact .invalid rfl

theorem fails_of_answer {f : Failure} (h : s.answer room = .error f) : s.Fails room f := by
  obtain ⟨e, hload, rfl⟩ := mapError_eq_error h
  rw [s.load_eq] at hload
  rcases bind_eq_error hload with hdocument | ⟨j, hj, hrecord⟩
  · exact fails_of_document hdocument
  · exact fails_of_ofJson hj hrecord

/-- Damage that escapes does end in a fault. -/
theorem Escapes.exists_fault {x : Fault} (h : s.Escapes room x) :
    ∃ x', s.answer room = .error (.fault x') := by
  cases h with
  | undecodable h => exact ⟨_, answer_of_document (document_of_undecodable h)⟩
  | longInteger h ht hlong => exact ⟨_, answer_of_document h⟩
  | nested h ht hdeep => exact ⟨_, answer_of_document h⟩
  | @timestamp es doc _ hs hdoc h =>
    obtain ⟨r, points, hrecord, hpoints⟩ := h.exists_refusal
    have hdocument : ProofRecord.ofDocument (Json.dict es).toData = .error r := by
      rw [ProofRecord.ofDocument, hdoc]
      exact hrecord
    have hjson : ProofRecord.ofJson (.dict es) = .error (.malformed r) := by
      rw [ProofRecord.ofJson, hdocument]
      rfl
    have htold : Failure.ofLoadFault (.malformed r) = .fault (.unencodable points) := by
      rw [Failure.ofLoadFault, Failure.ofMalformed, hpoints]
    refine ⟨.unencodable points, ?_⟩
    rw [← htold, answer, s.load_eq, hs]
    exact congrArg (Except.mapError Failure.ofLoadFault) hjson

end Source

/-! ## Who is told -/

/-- What the operations that ask for the record of a name end with. The one that forgets records
asks for those before it first, so it may end with the failure of another. -/
structure Reported (id : Text) (f : Failure) (w : World) : Prop where
  shown : w.store.get id = .error f
  verified (p : Pipeline) (t : Instruments) : (p.verifyRecord t (.text id) w).1 = .error f
  compared (p : Pipeline) (candidate : Data) :
    (p.compareRecords (.text id) candidate w).1 = .error f
  comparedWith (p : Pipeline) (baseline : Data) (r : ProofRecord)
    (hbaseline : Pipeline.recordOr baseline Directory.baseline w = (.ok r, w)) :
    (p.compareRecords baseline (.text id) w).1 = .error f
  promoted : (Act.promote (.text id) w).1 = .error f
  pruned (cutoff : Moment) (keep : Bool) (current : Data) (ids : List Text)
    (haware : cutoff.isAware = true) (hpointed : w.store.pointed = .ok current)
    (hhistory : w.store.history = .ok ids) (hid : id ∈ ids) :
    ∃ id' ∈ ids, ∃ f', w.store.get id' = .error f' ∧
      (w.store.pruneBefore cutoff keep).outcome = .error f'

/-- A cutoff with a distance from UTC leaves no other reason not to judge a record. -/
theorem Directory.get_of_goes {d : Directory} {cutoff : Moment} (haware : cutoff.isAware = true)
    {kept : Option Text} {id : Text} {f : Failure} (h : d.goes cutoff kept id = .error f) :
    d.get id = .error f := by
  rcases bind_eq_error h with hget | ⟨r, -, h⟩
  · exact hget
  · rcases bind_eq_error h with hold | ⟨old, -, h⟩
    · rw [isOld, if_pos haware] at hold
      cases hold
    · cases h

theorem reported_of_get {w : World} {id : Text} {f : Failure} (hid : id ≠ [])
    (h : w.store.get id = .error f) : Reported id f w := by
  have hask : Act.ask (·.getNamed (.text id)) w = (.error f, w) := Act.ask_eq h
  have hholds : (Data.text id).holds = true := by
    rw [Data.holds, Bool.not_eq_true', List.isEmpty_eq_false_iff]
    exact hid
  have hasked : ∀ default, Pipeline.recordOr (.text id) default w = (.error f, w) := by
    intro default
    refine Act.ask_eq ?_
    rw [if_pos hholds]
    exact h
  refine ⟨h, fun p t => ?_, fun p candidate => ?_, fun p baseline r hbaseline => ?_, ?_, ?_⟩
  · exact congrArg Prod.fst (Act.bind_eq_of_error hask)
  · exact congrArg Prod.fst (Act.bind_eq_of_error (hasked _))
  · rw [Pipeline.compareRecords, Act.bind_eq_of_ok hbaseline, Act.bind_eq_of_error (hasked _)]
  · exact congrArg Prod.fst (Act.bind_eq_of_error hask)
  · intro cutoff keep current ids haware hpointed hhistory hmem
    have hgoes : ∀ kept, w.store.goes cutoff kept id = .error f := by
      intro kept
      rw [Directory.goes, h]
      rfl
    -- A record before this one may fail first, so the failure is looked up among all of them.
    obtain ⟨f', hdoomed⟩ := exists_mapM_eq_error hmem
      (hgoes (if keep then Directory.name? current else none))
    obtain ⟨id', hid', hfail⟩ := exists_of_mapM_eq_error hdoomed
    refine ⟨id', hid', f', Directory.get_of_goes haware hfail, ?_⟩
    rw [Directory.pruneBefore, hpointed, Plan.after_ok, hhistory, Plan.after_ok, Directory.doomed,
      hdoomed]
    rfl

/-- Reading gives a record or an error of the ledger that calls the record invalid, exactly when
the text or the octets have none of four kinds of damage, however much room there is for nested
values. Where the octets are the record file of a name, whoever asks for the record of that name
is told what reading them ends with. -/
theorem ProofRecord.refusals (s : Source) (room : Json.Room) :
    ((∃ r, s.answer room = .ok r) ∨
          (∃ e, s.answer room = .error (.ledger e) ∧ e.code = .invalidRecord) ↔
        ∀ x, ¬ s.Escapes room x) ∧
      (∀ f, s.answer room = .error f → s.Fails room f) ∧
      ∀ b w id f, s = .octets b → w.store.site.room = room → w.store.content id = .ok b →
        s.answer room = .error f → Reported id f w := by
  refine ⟨⟨fun h x hescapes => ?_, fun h => ?_⟩, fun f => Source.fails_of_answer, ?_⟩
  · obtain ⟨x', hfault⟩ := hescapes.exists_fault
    rcases h with ⟨r, hr⟩ | ⟨e, he, -⟩
    · cases hr.symm.trans hfault
    · cases he.symm.trans hfault
  · cases hanswer : s.answer room with
    | ok r => exact .inl ⟨r, rfl⟩
    | error f =>
      cases Source.fails_of_answer hanswer with
      | @invalid e hcode => exact .inr ⟨e, rfl, hcode⟩
      | @escapes x hescapes => exact absurd hescapes (h x)
  · rintro b w id f rfl rfl hcontent hanswer
    have hid : id ≠ [] := by
      rintro rfl
      obtain ⟨u, hname, -⟩ := bind_eq_ok hcontent
      cases hname
    refine reported_of_get hid ?_
    rw [Directory.get, hcontent]
    exact hanswer

/-- A store with a record file that holds no text. -/
def defaced : World :=
  .of { Directory.empty (.clear "store") with records := [("main-1", [0xFF])] }

theorem ProofRecord.refusals_defaced :
    Reported "main-1" (.fault .undecodableDocument) defaced := by
  obtain ⟨-, -, hreported⟩ := refusals (.octets [0xFF]) none
  exact hreported [0xFF] defaced "main-1" _ rfl rfl rfl rfl

/-- A single octet that ends in no error of the ledger. -/
theorem ProofRecord.refusals_octet :
    ∃ f, (Source.octets [0xFF]).answer = .error f ∧ ∀ e, f ≠ .ledger e :=
  ⟨.fault .undecodableDocument, rfl, nofun⟩

end ProofLedger
