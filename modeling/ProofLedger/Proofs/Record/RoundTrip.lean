import ProofLedger.Proofs.Json.Documents
import ProofLedger.Proofs.Json.Newlines
import ProofLedger.Proofs.Record.Accepted

/-!
# Records read back

`loads_dumps`: the text that a record is stored as reads back as that record, as text, as
octets, and on one line; so two records never have one text. `ofJson_document` is what all
three rest on: the document of a record, which has its entries in key order, describes the
record again.

A record whose duration is infinite, or whose length has too many digits, has no text. Nothing
is said of it here, nor of documents that no record was written to.
-/

namespace ProofLedger

/-! ## The parts of a document -/

namespace ProveInput

/-- The fields of an input, under their names. -/
def entries (i : ProveInput) : List (Text × Data) :=
  [("length", .int i.length), ("block_commitment", i.blockCommitment.toData),
    ("nonce", i.nonce.toData)]

theorem toData_eq (i : ProveInput) : i.toData = .dict (textEntries i.entries) := rfl

theorem entries_nodup (i : ProveInput) : (i.entries.map Prod.fst).Nodup :=
  show fieldNames.Nodup by decide

end ProveInput

namespace ProofObject

/-- The fields of an object, under their names. -/
def entries (o : ProofObject) : List (Text × Data) :=
  [("type", .text o.tag.val), ("data", .text o.data.val)]

theorem toData_eq (o : ProofObject) : o.toData = .dict (textEntries o.entries) := rfl

theorem entries_nodup (o : ProofObject) : (o.entries.map Prod.fst).Nodup :=
  show fieldNames.Nodup by decide

end ProofObject

namespace ProofRecord

/-- The fields of a record's document, under their names. -/
def entries (r : ProofRecord) : List (Text × Data) :=
  [("format", .text recordFormat), ("version", .text recordVersion), ("record_id", .text r.id.val),
    ("input", r.input.toData), ("duration_secs", .double r.duration.val),
    ("proof_hash", .text r.proofHash.val), ("timestamp", .text r.timestamp.text),
    ("test_name", .text r.testName), ("source_branch", .text r.sourceLabel),
    ("proof", .list (r.objects.map ProofObject.toData))]

theorem document_eq (r : ProofRecord) : r.document = .dict (textEntries r.entries) := rfl

theorem entries_nodup (r : ProofRecord) : (r.entries.map Prod.fst).Nodup :=
  show RecordDocument.fieldNames.Nodup by decide

end ProofRecord

section Fields

variable {es : List (Text × Data)} {out : List (Text × Json)}

/-- A document holds the entries of a dictionary, each under its name and no other. -/
structure Holds (out : List (Text × Json)) (es : List (Text × Data)) : Prop where
  value : ∀ {k d}, (k, d) ∈ es →
    ∃ v, d.toJson = .ok v ∧ valueAt? (Json.toDataEntries out) k = some v.toData
  declared : ∀ e ∈ Json.toDataEntries out, Intake.isDeclared (es.map Prod.fst) e.1 = true

theorem holds_of_toJson (hkeys : (es.map Prod.fst).Nodup) {j : Json}
    (h : (Data.dict (textEntries es)).toJson = .ok j) : ∃ out, j = .dict out ∧ Holds out es := by
  obtain ⟨out, rfl, hperm, hnodup, -, hvalues⟩ := Data.toJson_fields hkeys h
  refine ⟨out, rfl, ⟨fun {k d} he => ?_, fun e he => ?_⟩⟩
  · obtain ⟨v, hv, hmem⟩ := hvalues _ he
    exact ⟨v, hv, Json.valueAt?_toDataEntries hnodup hmem⟩
  · rw [Json.toDataEntries_eq] at he
    obtain ⟨o, ho, rfl⟩ := List.mem_map.mp he
    obtain ⟨p, hp, rfl⟩ := List.mem_map.mp ho
    have hname : p.1 ∈ es.map Prod.fst := hperm.mem_iff.mp (List.mem_map_of_mem hp)
    simpa [Intake.isDeclared] using hname

/-- A field passes in the document when the value that it was written from does. -/
theorem Holds.required (h : Holds out es) {k : Text} {d : Data} (hd : (k, d) ∈ es) {α : Type}
    {check : Data → Checked α} {a : α} (ha : ∀ v, d.toJson = .ok v → check v.toData = .ok a) :
    Intake.required (Json.toDataEntries out) k check = .ok a := by
  obtain ⟨v, hv, hvalue⟩ := h.value hd
  exact Intake.required_of_valueAt? hvalue (ha v hv)

theorem Holds.optional (h : Holds out es) {k : Text} {d : Data} (hd : (k, d) ∈ es) {α : Type}
    {check : Data → Checked α} {a default : α}
    (ha : ∀ v, d.toJson = .ok v → check v.toData = .ok a) :
    Intake.optional (Json.toDataEntries out) k default check = .ok a := by
  obtain ⟨v, hv, hvalue⟩ := h.value hd
  exact Intake.optional_of_valueAt? hvalue (ha v hv)

end Fields

/-- A text stands in a document as it is, and so do integers and doubles. -/
theorem toData_text {α : Type} {t : Text} {check : Data → Checked α} {a : α}
    (h : check (.text t) = .ok a) :
    ∀ v, (Data.text t).toJson = .ok v → check v.toData = .ok a := by
  intro v hv
  cases hv
  exact h

theorem toData_double {α : Type} {d : Double} {check : Data → Checked α} {a : α}
    (h : check (.double d) = .ok a) :
    ∀ v, (Data.double d).toJson = .ok v → check v.toData = .ok a := by
  intro v hv
  rw [Data.toJson] at hv
  split at hv
  · cases hv
    exact h
  · cases hv

theorem toData_int {α : Type} {n : Int} {check : Data → Checked α} {a : α}
    (h : check (.int n) = .ok a) :
    ∀ v, (Data.int n).toJson = .ok v → check v.toData = .ok a := by
  intro v hv
  rw [Data.toJson] at hv
  split at hv
  · cases hv
    exact h
  · cases hv

/-- A list passes in a document when its items do. -/
theorem sequence_toJson {α β : Type} {cause : Cause} {check : Data → Checked α} {f : β → Data}
    {g : β → α} {xs : List β}
    (h : ∀ x ∈ xs, ∀ v, (f x).toJson = .ok v → check v.toData = .ok (g x)) :
    ∀ v, (Data.list (xs.map f)).toJson = .ok v →
      Intake.sequence cause check v.toData = .ok (xs.map g) := by
  intro v hv
  obtain ⟨js, hjs, rfl⟩ := map_eq_ok hv
  have hitems := Data.toJsonItems_eq_ok hjs
  rw [Json.toData, Json.toDataItems_eq, Intake.sequence, Checked.items]
  generalize 0 = index
  clear hv hjs
  induction xs generalizing js index with
  | nil =>
    cases js with
    | nil => rfl
    | cons j js => cases hitems
  | cons x xs ih =>
    cases js with
    | nil => cases hitems
    | cons j js =>
      obtain ⟨hx, hxs⟩ := List.cons.inj hitems
      have hitem := h x List.mem_cons_self j hx
      have hrest := ih (fun y hy => h y (List.mem_cons_of_mem _ hy)) js hxs (index + 1)
      rw [List.map_cons, Checked.itemsFrom, hitem, hrest]
      rfl

theorem Words.sequence_toJson (ws : Words) :
    ∀ v, ws.toData.toJson = .ok v → Intake.sequence .notList Intake.int v.toData = .ok ws.ints := by
  rw [Words.toData_eq]
  intro v hv
  have hitem : ∀ n ∈ ws.ints, ∀ v, (Data.int n).toJson = .ok v →
      Intake.int v.toData = .ok (id n) := fun _ _ => toData_int rfl
  have h : Intake.sequence .notList Intake.int v.toData = .ok (ws.ints.map id) :=
    ProofLedger.sequence_toJson hitem v hv
  rwa [List.map_id] at h

theorem ProveInput.check_toJson (i : ProveInput) :
    ∀ v, i.toData.toJson = .ok v → InputDocument.check v.toData = .ok i.toDocument := by
  intro v hv
  rw [ProveInput.toData_eq] at hv
  obtain ⟨out, rfl, hout⟩ := holds_of_toJson i.entries_nodup hv
  have hlength : Intake.required (Json.toDataEntries out) "length" Intake.nat = .ok i.length :=
    hout.required (d := .int i.length) (by simp [entries]) (toData_int rfl)
  have hcommitment : Intake.required (Json.toDataEntries out) "block_commitment"
      (Intake.sequence .notList Intake.int) = .ok i.blockCommitment.ints :=
    hout.required (by simp [entries]) i.blockCommitment.sequence_toJson
  have hnonce : Intake.required (Json.toDataEntries out) "nonce"
      (Intake.sequence .notList Intake.int) = .ok i.nonce.ints :=
    hout.required (by simp [entries]) i.nonce.sequence_toJson
  have hdeclared : ∀ e ∈ Json.toDataEntries out, Intake.isDeclared fieldNames e.1 = true :=
    hout.declared
  rw [Json.toData, InputDocument.check, Intake.model, InputDocument.ofFields, hlength,
    hcommitment, hnonce, Intake.closed_of_declared hdeclared]
  rfl

theorem ProofObject.check_toJson (o : ProofObject) :
    ∀ v, o.toData.toJson = .ok v → ObjectDocument.check v.toData = .ok o.toDocument := by
  intro v hv
  rw [ProofObject.toData_eq] at hv
  obtain ⟨out, rfl, hout⟩ := holds_of_toJson o.entries_nodup hv
  have htag : Intake.required (Json.toDataEntries out) "type" Intake.text = .ok o.tag.val :=
    hout.required (by simp [entries]) (toData_text rfl)
  have hdata : Intake.required (Json.toDataEntries out) "data" Intake.text = .ok o.data.val :=
    hout.required (by simp [entries]) (toData_text rfl)
  have hdeclared : ∀ e ∈ Json.toDataEntries out, Intake.isDeclared fieldNames e.1 = true :=
    hout.declared
  rw [Json.toData, ObjectDocument.check, Intake.model, ObjectDocument.ofFields, htag, hdata,
    Intake.closed_of_declared hdeclared]
  rfl

namespace ProofRecord

/-- The record as its document says it. -/
def toDocument (r : ProofRecord) : RecordDocument where
  id := r.id.val
  input := r.input.toDocument
  duration := r.duration.val
  proofHash := r.proofHash.val
  timestamp := r.timestamp.text
  testName := r.testName
  sourceBranch := r.sourceLabel
  proof := r.objects.map ProofObject.toDocument

theorem check_toJson (r : ProofRecord) :
    ∀ v, r.document.toJson = .ok v → RecordDocument.check v.toData = .ok r.toDocument := by
  intro v hv
  rw [document_eq] at hv
  obtain ⟨out, rfl, hout⟩ := holds_of_toJson r.entries_nodup hv
  have hformat : Intake.optional (Json.toDataEntries out) "format" recordFormat
      (Intake.literal recordFormat) = .ok recordFormat :=
    hout.optional (by simp [entries]) (toData_text (if_pos rfl))
  have hversion : Intake.optional (Json.toDataEntries out) "version" recordVersion
      (Intake.literal recordVersion) = .ok recordVersion :=
    hout.optional (by simp [entries]) (toData_text (if_pos rfl))
  have hid : Intake.required (Json.toDataEntries out) "record_id" Intake.text = .ok r.id.val :=
    hout.required (by simp [entries]) (toData_text rfl)
  have hinput : Intake.required (Json.toDataEntries out) "input" InputDocument.check =
      .ok r.input.toDocument :=
    hout.required (by simp [entries]) r.input.check_toJson
  have hduration : Intake.required (Json.toDataEntries out) "duration_secs" Intake.double =
      .ok r.duration.val :=
    hout.required (by simp [entries]) (toData_double rfl)
  have hhash : Intake.required (Json.toDataEntries out) "proof_hash" Intake.text =
      .ok r.proofHash.val :=
    hout.required (by simp [entries]) (toData_text rfl)
  have htimestamp : Intake.required (Json.toDataEntries out) "timestamp" Intake.text =
      .ok r.timestamp.text :=
    hout.required (by simp [entries]) (toData_text rfl)
  have htest : Intake.required (Json.toDataEntries out) "test_name" Intake.text =
      .ok r.testName :=
    hout.required (by simp [entries]) (toData_text rfl)
  have hbranch : Intake.required (Json.toDataEntries out) "source_branch" Intake.text =
      .ok r.sourceLabel :=
    hout.required (by simp [entries]) (toData_text rfl)
  have hproof : Intake.required (Json.toDataEntries out) "proof"
      (Intake.sequence .notList ObjectDocument.check) =
        .ok (r.objects.map ProofObject.toDocument) :=
    hout.required (by simp [entries]) (sequence_toJson fun o _ => o.check_toJson)
  have hdeclared : ∀ e ∈ Json.toDataEntries out,
      Intake.isDeclared RecordDocument.fieldNames e.1 = true := hout.declared
  rw [Json.toData, RecordDocument.check, Intake.model, RecordDocument.ofFields, hformat, hversion,
    hid, hinput, hduration, hhash, htimestamp, htest, hbranch, hproof,
    Intake.closed_of_declared hdeclared]
  rfl

theorem mapM_toObject (objects : List ProofObject) :
    (objects.map ProofObject.toDocument).mapM ObjectDocument.toObject = .ok objects := by
  induction objects with
  | nil => rfl
  | cons o objects ih =>
    rw [List.map_cons, List.mapM_cons, ProofObject.toObject_toDocument, ih]
    rfl

/-- The fields of a record apart from its input and its objects. -/
def checkedFields (r : ProofRecord) : Intake.Fields :=
  [(("record_id" : Text), .text r.id.val), (("proof_hash" : Text), .text r.proofHash.val),
    (("duration_secs" : Text), .double r.duration.val),
    (("timestamp" : Text), .text r.timestamp.text),
    (("source_label" : Text), .text r.sourceLabel), (("test_name" : Text), .text r.testName)]

/-- A record is built from its own fields. -/
theorem buildWith_checkedFields (r : ProofRecord) :
    buildWith r.input r.objects r.checkedFields = .ok r := by
  have hid : Intake.required r.checkedFields "record_id" Intake.name = .ok r.id :=
    Intake.required_of_valueAt? rfl (Intake.name_text r.id)
  have hhash : Intake.required r.checkedFields "proof_hash" Intake.name = .ok r.proofHash :=
    Intake.required_of_valueAt? rfl (Intake.name_text r.proofHash)
  have hduration : Intake.required r.checkedFields "duration_secs" Intake.nonNegative =
      .ok r.duration :=
    Intake.required_of_valueAt? rfl (Intake.nonNegative_double r.duration)
  have htimestamp : Intake.required r.checkedFields "timestamp" Timestamp.check =
      .ok r.timestamp :=
    Intake.required_of_valueAt? rfl (Timestamp.check_text r.timestamp)
  have hlabel : Intake.required r.checkedFields "source_label" Intake.text = .ok r.sourceLabel :=
    Intake.required_of_valueAt? (d := .text r.sourceLabel) rfl rfl
  have htest : Intake.optional r.checkedFields "test_name" [] Intake.text = .ok r.testName :=
    Intake.optional_of_valueAt? (d := .text r.testName) rfl rfl
  have hdeclared : ∀ e ∈ r.checkedFields, Intake.isDeclared fieldNames e.1 = true := by
    intro e he
    simp only [checkedFields, List.mem_cons, List.not_mem_nil, or_false] at he
    rcases he with rfl | rfl | rfl | rfl | rfl | rfl <;> rfl
  rw [buildWith, assemble, hid, hhash, hduration, htimestamp, hlabel, htest,
    Intake.closed_of_declared hdeclared]
  rfl

/-- What the document of a record says is that record. -/
theorem toRecord_toDocument (r : ProofRecord) : r.toDocument.toRecord = .ok r := by
  have hinput : ProveInput.build r.toDocument.input.toFields = .ok r.input :=
    r.input.build_toDocument
  have hobjects : r.toDocument.proof.mapM ObjectDocument.toObject = .ok r.objects :=
    mapM_toObject r.objects
  rw [RecordDocument.toRecord, hinput, hobjects]
  exact r.buildWith_checkedFields

/-- The document of a record describes it. -/
theorem ofJson_document {r : ProofRecord} {j : Json} (h : r.document.toJson = .ok j) :
    ofJson j = .ok r := by
  obtain ⟨out, rfl, -⟩ := holds_of_toJson r.entries_nodup h
  have hcheck := r.check_toJson _ h
  rw [ofJson, ofDocument, hcheck]
  simp only [bind, Except.bind, toRecord_toDocument]
  rfl

/-! ## What holds of the document of a record -/

/-- The texts of a record's document, names of fields apart. -/
def texts (r : ProofRecord) : List Text :=
  [recordFormat, recordVersion, r.id.val, r.proofHash.val, r.timestamp.text, r.testName,
    r.sourceLabel] ++ r.objects.flatMap fun o => [o.tag.val, o.data.val]

section Inherited

variable {P : Json → Prop} (hP : Json.Inherited P)
include hP

theorem makes_fields {es : List (Text × Data)} (hkeys : (es.map Prod.fst).Nodup)
    (hscalar : ∀ k ∈ es.map Prod.fst, k.Scalar) (hes : ∀ e ∈ es, Data.Makes P e.2) :
    Data.Makes P (.dict (textEntries es)) :=
  Data.makes_dict (fun hnodup hout =>
    hP.dict hnodup fun o ho => ⟨hscalar o.1 (hout o ho).1, (hout o ho).2⟩) hkeys hes

theorem makes_input (i : ProveInput) : Data.Makes P i.toData := by
  have hwords : ∀ ws : Words, Data.Makes P ws.toData := by
    intro ws
    rw [Words.toData_eq]
    refine Data.makes_list hP.list fun x hx => ?_
    obtain ⟨n, -, rfl⟩ := List.mem_map.mp hx
    exact Data.makes_int hP.int
  rw [ProveInput.toData_eq]
  refine makes_fields hP i.entries_nodup (show ∀ k ∈ ProveInput.fieldNames, k.Scalar by decide)
    fun e he => ?_
  simp only [ProveInput.entries, List.mem_cons, List.not_mem_nil, or_false] at he
  rcases he with rfl | rfl | rfl
  · exact Data.makes_int hP.int
  · exact hwords _
  · exact hwords _

theorem makes_object {o : ProofObject} (ho : ∀ t ∈ [o.tag.val, o.data.val], P (.text t)) :
    Data.Makes P o.toData := by
  rw [ProofObject.toData_eq]
  refine makes_fields hP o.entries_nodup (show ∀ k ∈ ProofObject.fieldNames, k.Scalar by decide)
    fun e he => ?_
  simp only [ProofObject.entries, List.mem_cons, List.not_mem_nil, or_false] at he
  rcases he with rfl | rfl
  · exact Data.makes_text (ho _ (by simp))
  · exact Data.makes_text (ho _ (by simp))

/-- What holds of the texts of a record holds of its document. -/
theorem makes_document {r : ProofRecord} (hr : ∀ t ∈ r.texts, P (.text t)) :
    Data.Makes P r.document := by
  have hobjects : Data.Makes P (.list (r.objects.map ProofObject.toData)) := by
    refine Data.makes_list hP.list fun x hx => ?_
    obtain ⟨o, ho, rfl⟩ := List.mem_map.mp hx
    exact makes_object hP fun t ht =>
      hr t (List.mem_append_right _ (List.mem_flatMap.mpr ⟨o, ho, ht⟩))
  rw [document_eq]
  refine makes_fields hP r.entries_nodup
    (show ∀ k ∈ RecordDocument.fieldNames, k.Scalar by decide) fun e he => ?_
  simp only [entries, List.mem_cons, List.not_mem_nil, or_false] at he
  rcases he with rfl | rfl | rfl | rfl | rfl | rfl | rfl | rfl | rfl | rfl
  · exact Data.makes_text (hr _ (by simp [texts]))
  · exact Data.makes_text (hr _ (by simp [texts]))
  · exact Data.makes_text (hr _ (by simp [texts]))
  · exact makes_input hP r.input
  · exact Data.makes_double hP.double
  · exact Data.makes_text (hr _ (by simp [texts]))
  · exact Data.makes_text (hr _ (by simp [texts]))
  · exact Data.makes_text (hr _ (by simp [texts]))
  · exact Data.makes_text (hr _ (by simp [texts]))
  · exact hobjects

end Inherited

/-- Nothing of a record is lost in writing. -/
theorem faithful_document {r : ProofRecord} {j : Json} (h : r.document.toJson = .ok j) :
    j.Faithful :=
  makes_document Json.inherited_faithful (fun _ _ => trivial) j h

/-- The text of a record has octets when its texts have. -/
theorem scalar_document {r : ProofRecord} (hr : ∀ t ∈ r.texts, t.Scalar) {j : Json}
    (h : r.document.toJson = .ok j) : j.pretty.Scalar :=
  Json.scalar_pretty (makes_document Json.inherited_texts
    (fun t ht _ hc _ => List.all_eq_true.mp (hr t ht) _ hc) j h)

/-! ## Which records have a text -/

theorem exists_toJson_int {n : Int} (h : Number.fits n = true) :
    ∃ v, (Data.int n).toJson = .ok v := ⟨.int n, by rw [Data.toJson, if_pos h]⟩

/-- Integers of up to a hundred digits fit a numeral. -/
theorem fits_of_lt {n : Nat} (h : n < 10 ^ 100) : Number.fits n = true := by
  have hdigits : 100 ≤ Number.maxDigits := by decide
  have hlt : n < 10 ^ Number.maxDigits :=
    Nat.lt_of_lt_of_le h (Nat.pow_le_pow_right (by decide) hdigits)
  rw [Number.fits, Int.natAbs_natCast]
  exact decide_eq_true hlt

theorem exists_toJson_words (ws : Words) : ∃ v, ws.toData.toJson = .ok v := by
  rw [Words.toData_eq]
  refine Data.exists_toJson_list fun x hx => ?_
  obtain ⟨n, hn, rfl⟩ := List.mem_map.mp hx
  obtain ⟨w, hw, rfl⟩ := List.mem_map.mp hn
  exact exists_toJson_int (fits_of_lt (Nat.lt_trans (ws.bounded w hw) (by decide)))

theorem exists_toJson_input {i : ProveInput} (h : Number.fits i.length = true) :
    ∃ v, i.toData.toJson = .ok v := by
  rw [ProveInput.toData_eq]
  refine Data.exists_toJson_dict fun e he => ?_
  simp only [ProveInput.entries, List.mem_cons, List.not_mem_nil, or_false] at he
  rcases he with rfl | rfl | rfl
  · exact exists_toJson_int h
  · exact exists_toJson_words _
  · exact exists_toJson_words _

theorem exists_toJson_object (o : ProofObject) : ∃ v, o.toData.toJson = .ok v := by
  rw [ProofObject.toData_eq]
  refine Data.exists_toJson_dict fun e he => ?_
  simp only [ProofObject.entries, List.mem_cons, List.not_mem_nil, or_false] at he
  rcases he with rfl | rfl
  · exact ⟨_, rfl⟩
  · exact ⟨_, rfl⟩

/-- A record has a text when its duration is finite and its length fits a numeral, and only
then. -/
theorem exists_dumps_iff (r : ProofRecord) :
    (∃ t, r.dumps = .ok t) ↔
      r.duration.val.isFinite = true ∧ Number.fits r.input.length = true := by
  constructor
  · rintro ⟨t, h⟩
    obtain ⟨j, hj, -⟩ := map_eq_ok h
    rw [document_eq] at hj
    obtain ⟨out, -, -, -, -, hvalues⟩ := Data.toJson_fields r.entries_nodup hj
    obtain ⟨d, hd, -⟩ := hvalues ("duration_secs", .double r.duration.val) (by simp [entries])
    obtain ⟨i, hi, -⟩ := hvalues ("input", r.input.toData) (by simp [entries])
    obtain ⟨out, -, -, -, -, hfields⟩ := Data.toJson_fields r.input.entries_nodup hi
    obtain ⟨n, hn, -⟩ := hfields ("length", .int r.input.length) (by simp [ProveInput.entries])
    simp only [Data.toJson] at hd hn
    constructor
    · split at hd
      · next hfinite => exact hfinite
      · cases hd
    · split at hn
      · next hfits => exact hfits
      · cases hn
  · rintro ⟨hfinite, hfits⟩
    have hdocument : ∃ j, r.document.toJson = .ok j := by
      rw [document_eq]
      refine Data.exists_toJson_dict fun e he => ?_
      simp only [entries, List.mem_cons, List.not_mem_nil, or_false] at he
      rcases he with rfl | rfl | rfl | rfl | rfl | rfl | rfl | rfl | rfl | rfl
      · exact ⟨_, rfl⟩
      · exact ⟨_, rfl⟩
      · exact ⟨_, rfl⟩
      · exact exists_toJson_input hfits
      · exact ⟨_, by rw [Data.toJson, if_pos hfinite]⟩
      · exact ⟨_, rfl⟩
      · exact ⟨_, rfl⟩
      · exact ⟨_, rfl⟩
      · exact ⟨_, rfl⟩
      · refine Data.exists_toJson_list fun x hx => ?_
        obtain ⟨o, -, rfl⟩ := List.mem_map.mp hx
        exact exists_toJson_object o
    obtain ⟨j, hj⟩ := hdocument
    exact ⟨j.pretty, by rw [dumps, hj]; rfl⟩

/-! ## Levels -/

section Levels

variable {k : Nat}

theorem makes_within_list {xs : List Data} (h : ∀ x ∈ xs, Data.Makes (Json.Within k) x) :
    Data.Makes (Json.Within (k + 1)) (.list xs) := Data.makes_list Json.within_list h

theorem makes_within_dict {es : List (Text × Data)} (hkeys : (es.map Prod.fst).Nodup)
    (h : ∀ e ∈ es, Data.Makes (Json.Within k) e.2) :
    Data.Makes (Json.Within (k + 1)) (.dict (textEntries es)) :=
  Data.makes_dict (fun _ hout => Json.within_dict fun o ho => (hout o ho).2) hkeys h

theorem makes_within_text (t : Text) : Data.Makes (Json.Within k) (.text t) :=
  Data.makes_text (Nat.zero_le k)

theorem makes_within_words (ws : Words) : Data.Makes (Json.Within (k + 1)) ws.toData := by
  rw [Words.toData_eq]
  refine makes_within_list fun x hx => ?_
  obtain ⟨n, -, rfl⟩ := List.mem_map.mp hx
  exact Data.makes_int fun _ => Nat.zero_le k

theorem makes_within_input (i : ProveInput) : Data.Makes (Json.Within 2) i.toData := by
  rw [ProveInput.toData_eq]
  refine makes_within_dict i.entries_nodup fun e he => ?_
  simp only [ProveInput.entries, List.mem_cons, List.not_mem_nil, or_false] at he
  rcases he with rfl | rfl | rfl
  · exact Data.makes_int fun _ => Nat.zero_le 1
  · exact makes_within_words _
  · exact makes_within_words _

theorem makes_within_objects (os : List ProofObject) :
    Data.Makes (Json.Within 2) (.list (os.map ProofObject.toData)) := by
  refine makes_within_list fun x hx => ?_
  obtain ⟨o, -, rfl⟩ := List.mem_map.mp hx
  rw [ProofObject.toData_eq]
  refine makes_within_dict o.entries_nodup fun e he => ?_
  simp only [ProofObject.entries, List.mem_cons, List.not_mem_nil, or_false] at he
  rcases he with rfl | rfl <;> exact makes_within_text _

/-- No record has a deeper document. -/
theorem depth_document {r : ProofRecord} {j : Json} (h : r.document.toJson = .ok j) :
    Json.depth j ≤ depth := by
  rw [document_eq] at h
  refine makes_within_dict r.entries_nodup (fun e he => ?_) j h
  simp only [entries, List.mem_cons, List.not_mem_nil, or_false] at he
  rcases he with rfl | rfl | rfl | rfl | rfl | rfl | rfl | rfl | rfl | rfl
  · exact makes_within_text _
  · exact makes_within_text _
  · exact makes_within_text _
  · exact makes_within_input r.input
  · exact Data.makes_double fun _ => Nat.zero_le 2
  · exact makes_within_text _
  · exact makes_within_text _
  · exact makes_within_text _
  · exact makes_within_text _
  · exact makes_within_objects r.objects

end Levels

/-! ## Reading back -/

section ReadingBack

variable {r : ProofRecord} {j : Json} (h : r.document.toJson = .ok j) {room : Json.Room}
  (hroom : room.Holds depth)
include h hroom

theorem loads_pretty : loads j.pretty room = .ok r := by
  rw [loads, Json.read_pretty (faithful_document h) (hroom.mono (depth_document h))]
  exact ofJson_document h

theorem loads_compact : loads j.compact room = .ok r := by
  rw [loads, Json.read_compact (faithful_document h) (hroom.mono (depth_document h))]
  exact ofJson_document h

/-- The octets of the lines read back like the lines, whatever line ends they have come to
have. -/
theorem loadsBytes_newlines {t : Text} (ht : t.Scalar)
    (hlines : t.universalNewlines = j.pretty) : loadsBytes (Text.Utf8.encode t) room = .ok r := by
  have hread := Json.readWhole_newlines (faithful_document h) (hroom.mono (depth_document h)) hlines
  obtain ⟨out, rfl, -⟩ := holds_of_toJson r.entries_nodup h
  obtain ⟨c, s, hc, hpretty⟩ : ∃ c s, (c = 10 ∨ c = 0x7D) ∧
      (Json.dict out).pretty = 0x7B :: c :: s := by
    cases out with
    | nil => exact ⟨0x7D, [10], .inr rfl, rfl⟩
    | cons e out =>
      rw [Json.pretty, ← Json.write_inLines]
      exact ⟨10, _, .inl rfl, rfl⟩
  -- behind the brace comes a line end of some kind, or the other brace
  obtain ⟨x, r₂, hx, rfl⟩ : ∃ x r₂, (0 < x ∧ x < 128) ∧ t = 0x7B :: x :: r₂ := by
    rw [hpretty] at hlines
    obtain ⟨r₁, rfl, hr₁⟩ := Json.exists_cons_newlines hlines (by decide)
    obtain ⟨m, r₂, rfl, hm, -⟩ := Text.exists_split_newlines (a := [c]) hr₁
    cases m with
    | nil => cases hm
    | cons x m =>
      refine ⟨x, m ++ r₂, ?_, rfl⟩
      rcases hc with rfl | rfl
      · have hblank := Text.blanks_of_newlines hm (by simp [Json.Blanks, Json.isBlank]) x
          List.mem_cons_self
        simp only [Json.isBlank, Bool.or_eq_true, beq_iff_eq] at hblank
        omega
      · have hbrace := Text.eq_of_newlines hm (by decide)
        rw [(List.cons.inj hbrace).1]
        decide
  rw [loadsBytes, Json.readBytes_encode room hx ht, hread]
  exact ofJson_document h

/-- The octets of the lines as they were written. -/
theorem loadsBytes_pretty (ht : j.pretty.Scalar) :
    loadsBytes (Text.Utf8.encode j.pretty) room = .ok r :=
  loadsBytes_newlines h hroom ht
    (Text.universalNewlines_eq_self (Json.carriageReturn_not_mem_pretty j))

end ReadingBack

/-- A stored record reads back as the same record: from its text, from the octets of its text
when it has any, and from the one line that is shown of it. The text is no other record's. -/
theorem loads_dumps {r : ProofRecord} {t : Text} (h : r.dumps = .ok t) :
    loads t = .ok r ∧
      (∀ b, t.octets = .ok b → loadsBytes b = .ok r) ∧
      (∃ j, r.document.toJson = .ok j ∧ loads j.compact = .ok r) ∧
      ∀ r', r'.dumps = .ok t → r' = r := by
  obtain ⟨j, hj, rfl⟩ := map_eq_ok h
  have hroom := Json.Room.holds_none depth
  refine ⟨loads_pretty hj hroom, fun b hb => ?_, ⟨j, hj, loads_compact hj hroom⟩, fun r' h' => ?_⟩
  · obtain ⟨ht, rfl⟩ := Text.octets_eq_ok_iff.mp hb
    exact loadsBytes_pretty hj hroom ht
  · obtain ⟨j', hj', hpretty⟩ := map_eq_ok h'
    have hread := loads_pretty hj' hroom
    rw [hpretty, loads_pretty hj hroom] at hread
    exact (Except.ok.inj hread).symm

/-- A record with a quote, a backslash, a line feed, a line separator and an astral code point
in its label, and the least positive double as its duration. -/
def sample : ProofRecord where
  id := ⟨"main-1", by decide⟩
  input := ⟨10 ^ 30, ⟨[0, 1, 2, 3, 2 ^ 64 - 1], rfl, by decide⟩, ⟨[5, 6, 7, 8, 9], rfl, by decide⟩⟩
  objects := [⟨⟨"merkle", by decide⟩, ⟨"00ff", by decide⟩⟩]
  proofHash := ⟨"ab", by decide⟩
  duration := ⟨.ofRank false 1, by decide⟩
  timestamp :=
    ⟨"2024-01-01T00:00:00Z", ⟨738885 * Calendar.daySpan, some 0, by decide, by decide⟩,
      by decide +kernel, rfl⟩
  sourceLabel := [34, 92, 10, 0x2028, 0x1F600]
  testName := []

/-- The sample has a text, and so it reads back. -/
theorem loads_dumps_sample : ∃ t, sample.dumps = .ok t ∧ loads t = .ok sample ∧
    (∀ b, t.octets = .ok b → loadsBytes b = .ok sample) ∧
    (∃ j, sample.document.toJson = .ok j ∧ loads j.compact = .ok sample) ∧
    ∀ r', r'.dumps = .ok t → r' = sample := by
  have hfits : Number.fits sample.input.length = true := fits_of_lt (by decide)
  obtain ⟨t, ht⟩ := (exists_dumps_iff sample).mpr ⟨rfl, hfits⟩
  exact ⟨t, ht, loads_dumps ht⟩

end ProofRecord

end ProofLedger
