import ProofLedger.Proofs.Data.Reordered
import ProofLedger.Proofs.Intake.Integers
import ProofLedger.Proofs.Record.Octets
import ProofLedger.Proofs.Record.Refusals

/-!
# What words are taken from

Words are checked after their values have been taken for integers, in an input of a proof
(`ProveInput.build_eq_ok_iff`) and in a document alike (`ProofRecord.load_eq_ok_iff`). So what
counts is which integers the values are taken for, and not what the values are:
`converted_then_checked` says when five values in a list or a tuple are words, and which. The
values may be of any kind. What one of a further kind is taken for, a decimal or a member of an
enumeration, is up to that kind, and so it comes with the value (`Worth`). Other containers of
values than lists and tuples are left out.

A list of integers is words only when these integers are the words. But any words can be given as
texts, and truth values are words as well (`converted_truth`).
-/

namespace ProofLedger

open Intake

/-! ## Words and the values that they are taken from -/

namespace Words

/-- A list or tuple of values that are taken for the words, one by one. -/
def Given (ws : Words) (d : Data) : Prop :=
  ∃ xs, (d = .list xs ∨ d = .tuple xs) ∧ List.Forall₂ Reads xs ws.ints

theorem given_list_iff {ws : Words} {xs : List Data} :
    ws.Given (.list xs) ↔ List.Forall₂ Reads xs ws.ints := by
  constructor
  · rintro ⟨ys, h | h, hreads⟩
    · cases h
      exact hreads
    · cases h
  · intro hreads
    exact ⟨xs, .inl rfl, hreads⟩

theorem given_tuple_iff {ws : Words} {xs : List Data} :
    ws.Given (.tuple xs) ↔ List.Forall₂ Reads xs ws.ints := by
  constructor
  · rintro ⟨ys, h | h, hreads⟩
    · cases h
    · cases h
      exact hreads
  · intro hreads
    exact ⟨xs, .inr rfl, hreads⟩

theorem firstOutside?_eq_none_iff {xs : List Int} :
    firstOutside? xs = none ↔ ∀ n ∈ xs, 0 ≤ n ∧ n < 2 ^ 64 := by
  simp only [firstOutside?, List.find?_eq_none, Bool.or_eq_true, decide_eq_true_eq, not_or,
    Int.not_lt, Int.not_le]

/-- Five integers of 64 bits are words, and no other integers are. -/
theorem exists_ints_iff {xs : List Int} :
    (∃ ws : Words, ws.ints = xs) ↔ xs.length = 5 ∧ ∀ n ∈ xs, 0 ≤ n ∧ n < 2 ^ 64 := by
  constructor
  · rintro ⟨ws, rfl⟩
    refine ⟨by rw [ints, List.length_map, ws.length_eq], fun n hn => ?_⟩
    obtain ⟨w, hw, rfl⟩ := List.mem_map.mp hn
    have hlt := ws.bounded w hw
    simp only [Int.ofNat_eq_natCast]
    omega
  · rintro ⟨hlength, hbounded⟩
    have hvalues : ∀ w ∈ xs.map Int.toNat, w < 2 ^ 64 := by
      intro w hw
      obtain ⟨n, hn, rfl⟩ := List.mem_map.mp hw
      have := hbounded n hn
      omega
    refine ⟨⟨xs.map Int.toNat, by rw [List.length_map, hlength], hvalues⟩, ?_⟩
    rw [ints, List.map_map]
    refine (List.map_congr_left fun n hn => ?_).trans (List.map_id xs)
    exact Int.toNat_of_nonneg (hbounded n hn).1

/-- Words are made of their own integers and of no others. -/
theorem ofInts?_eq_some_iff {xs : List Int} {ws : Words} : ofInts? xs = some ws ↔ xs = ws.ints := by
  constructor
  · intro h
    rw [ofInts?] at h
    split at h
    · next hvalues =>
      split at h
      · next hinside =>
        obtain ⟨ws', rfl⟩ : ∃ ws' : Words, ws'.ints = xs :=
          exists_ints_iff.mpr ⟨by simpa using hvalues.1, firstOutside?_eq_none_iff.mp hinside⟩
        have hsame := ofInts?_ints ws'
        rw [ofInts?, dif_pos hvalues, if_pos hinside, h] at hsame
        rw [Option.some.inj hsame]
      · cases h
    · cases h
  · rintro rfl
    exact ofInts?_ints ws

/-- A list or tuple passes for the integers of words when its values are taken for them. -/
theorem sequence_eq_ints_iff (cause : Cause) {d : Data} {ws : Words} :
    sequence cause int d = .ok ws.ints ↔ ws.Given d := by
  rw [sequence_eq_ok_iff, Given]
  simp only [int_eq_ok_iff]

theorem check_eq_ok_iff (field : Text) {d : Data} {ws : Words} :
    check field d = .ok ws ↔ ws.Given d := by
  rw [← sequence_eq_ints_iff .notTuple]
  constructor
  · intro h
    obtain ⟨xs, hxs, h⟩ := bind_eq_ok h
    split at h
    · next ws' hws =>
      cases h
      rw [hxs, ofInts?_eq_some_iff.mp hws]
    · split at h <;> cases h
  · intro h
    simp only [check, h, bind, Except.bind, ofInts?_ints]

/-- Integers are taken for themselves. -/
theorem given_ints_iff {ws : Words} {ns : List Int} :
    ws.Given (.list (ns.map .int)) ↔ ns = ws.ints := by
  rw [← sequence_eq_ints_iff .notList, sequence_ints, Except.ok.injEq]

/-- Five values, each taken for an integer of 64 bits. -/
def Fit (xs : List Data) : Prop :=
  xs.length = 5 ∧ ∀ x ∈ xs, ∃ n, Reads x n ∧ 0 ≤ n ∧ n < 2 ^ 64

/-- Values are taken for words when each fits, and as many as there are words. -/
theorem exists_reads_iff {xs : List Data} :
    (∃ ws : Words, List.Forall₂ Reads xs ws.ints) ↔ Fit xs := by
  constructor
  · rintro ⟨ws, hreads⟩
    obtain ⟨hlength, hbounded⟩ := exists_ints_iff.mp ⟨ws, rfl⟩
    refine ⟨hreads.length_eq.trans hlength, fun x hx => ?_⟩
    obtain ⟨n, hn, hx⟩ := Data.exists_of_forall₂ hreads.flip hx
    exact ⟨n, hx, hbounded n hn⟩
  · rintro ⟨hlength, hread⟩
    choose! value hvalue using hread
    obtain ⟨ws, hws⟩ : ∃ ws : Words, ws.ints = xs.map value := by
      refine exists_ints_iff.mpr ⟨by rw [List.length_map, hlength], fun n hn => ?_⟩
      obtain ⟨x, hx, rfl⟩ := List.mem_map.mp hn
      exact (hvalue x hx).2
    refine ⟨ws, ?_⟩
    rw [hws, List.forall₂_map_right_iff, List.forall₂_same]
    exact fun x hx => (hvalue x hx).1

/-- Of lists of integers only that of the words is taken for them. -/
theorem given_and_int_iff {ws : Words} {xs : List Data} :
    ws.Given (.list xs) ∧ (∀ x ∈ xs, ∃ n, x = .int n) ↔ xs = ws.ints.map .int := by
  constructor
  · rintro ⟨hgiven, hints⟩
    have hsame : List.Forall₂ (fun x n => x = .int n) xs ws.ints := by
      refine Data.forall₂_imp_mem (given_list_iff.mp hgiven) fun x hx n hread => ?_
      obtain ⟨m, rfl⟩ := hints x hx
      cases hread
      rfl
    rwa [← List.forall₂_map_right_iff (R := Eq), List.forall₂_eq_eq_eq] at hsame
  · rintro rfl
    refine ⟨given_ints_iff.mpr rfl, fun x hx => ?_⟩
    obtain ⟨n, -, rfl⟩ := List.mem_map.mp hx
    exact ⟨n, rfl⟩

/-- Any words can be given as texts. -/
theorem given_digits (ws : Words) :
    ws.Given (.list (ws.values.map fun w => .text (Text.ofNat w))) := by
  rw [given_list_iff, ints, List.forall₂_map_left_iff, List.forall₂_map_right_iff,
    List.forall₂_same]
  intro w hw
  exact (reads_digits (ProofRecord.fits_of_lt (Nat.lt_trans (ws.bounded w hw) (by decide)))).1

end Words

/-! ## Inputs of a proof -/

namespace ProveInput

/-- What the fields say of an input. -/
structure Said (i : ProveInput) (fields : Fields) : Prop where
  declared : ∀ e ∈ fields, isDeclared fieldNames e.1 = true
  length : ∃ d, valueAt? fields "length" = some d ∧ nat d = .ok i.length
  commitment : ∃ d, valueAt? fields "block_commitment" = some d ∧ i.blockCommitment.Given d
  nonce : ∃ d, valueAt? fields "nonce" = some d ∧ i.nonce.Given d

theorem ofFields_eq_ok_iff {i : ProveInput} {fields : Fields} :
    ofFields fields = .ok i ↔ i.Said fields := by
  constructor
  · intro h
    obtain ⟨p, hclosed, rfl⟩ := map_eq_ok h
    obtain ⟨hdeclared, hfields⟩ := closed_eq_ok_iff.mp hclosed
    obtain ⟨hheads, hnonce⟩ := both_eq_ok hfields
    obtain ⟨hlength, hcommitment⟩ := both_eq_ok hheads
    simp only [required_eq_ok_iff, Words.check_eq_ok_iff] at hlength hcommitment hnonce
    exact ⟨hdeclared, hlength, hcommitment, hnonce⟩
  · rintro ⟨hdeclared, hlength, hcommitment, hnonce⟩
    simp only [← Words.check_eq_ok_iff "block_commitment"] at hcommitment
    simp only [← Words.check_eq_ok_iff "nonce"] at hnonce
    rw [ofFields, required_eq_ok_iff.mpr hlength, required_eq_ok_iff.mpr hcommitment,
      required_eq_ok_iff.mpr hnonce, closed_of_declared hdeclared]
    rfl

/-- Fields make an input exactly when they say it. -/
theorem build_eq_ok_iff {i : ProveInput} {fields : Fields} :
    build fields = .ok i ↔ i.Said fields := by
  rw [← ofFields_eq_ok_iff]
  constructor
  · exact mapError_eq_ok
  · intro h
    rw [build, h]
    rfl

/-- In a document the integers are taken first, and from the same values. -/
theorem check_toDocument_iff {i : ProveInput} {fields : Fields} :
    InputDocument.check (.dict fields) = .ok i.toDocument ↔ i.Said fields := by
  constructor
  · intro h
    obtain ⟨p, hclosed, hsame⟩ := map_eq_ok h
    obtain ⟨hdeclared, hfields⟩ := closed_eq_ok_iff.mp hclosed
    obtain ⟨hheads, hnonce⟩ := both_eq_ok hfields
    obtain ⟨hlength, hcommitment⟩ := both_eq_ok hheads
    obtain ⟨hl, hwords, hwords'⟩ : p.1.1 = i.length ∧ p.1.2 = i.blockCommitment.ints ∧
        p.2 = i.nonce.ints := by
      simpa only [toDocument, InputDocument.mk.injEq] using hsame
    rw [hl] at hlength
    rw [hwords] at hcommitment
    rw [hwords'] at hnonce
    simp only [required_eq_ok_iff, Words.sequence_eq_ints_iff] at hlength hcommitment hnonce
    exact ⟨hdeclared, hlength, hcommitment, hnonce⟩
  · rintro ⟨hdeclared, hlength, hcommitment, hnonce⟩
    simp only [← Words.sequence_eq_ints_iff .notList] at hcommitment hnonce
    rw [InputDocument.check, model, InputDocument.ofFields, required_eq_ok_iff.mpr hlength,
      required_eq_ok_iff.mpr hcommitment, required_eq_ok_iff.mpr hnonce,
      closed_of_declared hdeclared]
    rfl

/-- Only the document of an input makes this input. -/
theorem toDocument_of_build {i : ProveInput} {doc : InputDocument}
    (h : build doc.toFields = .ok i) : doc = i.toDocument := by
  obtain ⟨-, -, ⟨_, hd, hcommitment⟩, ⟨_, hd', hnonce⟩⟩ := build_eq_ok_iff.mp h
  cases hd
  cases hd'
  rw [toDocument, length_of_build h, ← Words.given_ints_iff.mp hcommitment,
    ← Words.given_ints_iff.mp hnonce]

end ProveInput

/-! ## Records -/

theorem ProofObject.toDocument_of_toObject {o : ProofObject} {doc : ObjectDocument}
    (h : doc.toObject = .ok o) : doc = o.toDocument := by
  obtain ⟨p, hclosed, rfl⟩ := map_eq_ok (mapError_eq_ok h)
  obtain ⟨htag, hdata⟩ := both_eq_ok (closed_eq_ok hclosed)
  have hname : p.1.val = doc.tag := name_eq_ok (required_eq_ok rfl htag)
  have hfield : p.2.val = doc.data := checkData_eq_ok (required_eq_ok rfl hdata)
  rw [toDocument, hname, hfield]

theorem ProofObject.map_toDocument_of_mapM {objects : List ProofObject} {docs : List ObjectDocument}
    (h : docs.mapM ObjectDocument.toObject = .ok objects) : docs = objects.map toDocument := by
  induction docs generalizing objects with
  | nil =>
    cases h
    rfl
  | cons doc docs ih =>
    rw [List.mapM_cons] at h
    obtain ⟨o, ho, h⟩ := bind_eq_ok h
    obtain ⟨rest, hrest, h⟩ := bind_eq_ok h
    cases h
    rw [List.map_cons, ← toDocument_of_toObject ho, ← ih hrest]

theorem Intake.nonNegative_eq_ok {x : Double} {duration : Duration}
    (h : nonNegative (.double x) = .ok duration) : duration.val = x := by
  simp only [nonNegative, double, bind, Except.bind] at h
  split at h
  · cases h
    rfl
  · cases h

theorem Timestamp.text_of_check {t : Text} {ts : Timestamp} (h : check (.text t) = .ok ts) :
    ts.text = t := by
  simp only [check, Intake.text, bind, Except.bind] at h
  split at h
  · cases h
  · split at h
    · cases h
      rfl
    · cases h

namespace ProofRecord

/-- Only the document of a record describes this record. -/
theorem toDocument_of_toRecord {r : ProofRecord} {doc : RecordDocument}
    (h : doc.toRecord = .ok r) : doc = r.toDocument := by
  obtain ⟨input, hinput, h⟩ := bind_eq_ok h
  obtain ⟨objects, hobjects, h⟩ := bind_eq_ok h
  obtain ⟨p, hclosed, rfl⟩ := map_eq_ok (mapError_eq_ok h)
  obtain ⟨hrest, htails⟩ := both_eq_ok (closed_eq_ok hclosed)
  obtain ⟨hheads, hmiddle⟩ := both_eq_ok hrest
  obtain ⟨hheads, hos⟩ := both_eq_ok hheads
  obtain ⟨hid, hin⟩ := both_eq_ok hheads
  obtain ⟨hmiddle, hstamp⟩ := both_eq_ok hmiddle
  obtain ⟨hhash, hduration⟩ := both_eq_ok hmiddle
  obtain ⟨hlabel, htest⟩ := both_eq_ok htails
  have hid : p.1.1.1.1.val = doc.id := name_eq_ok (required_eq_ok rfl hid)
  have hhash : p.1.2.1.1.val = doc.proofHash := name_eq_ok (required_eq_ok rfl hhash)
  have hduration : p.1.2.1.2.val = doc.duration := nonNegative_eq_ok (required_eq_ok rfl hduration)
  have hstamp : p.1.2.2.text = doc.timestamp := Timestamp.text_of_check (required_eq_ok rfl hstamp)
  have hlabel : text (.text doc.sourceBranch) = .ok p.2.1 := required_eq_ok rfl hlabel
  have htest : text (.text doc.testName) = .ok p.2.2 := optional_eq_ok rfl htest
  have hinput : doc.input = p.1.1.1.2.toDocument := by
    rw [← Except.ok.inj hin]
    exact ProveInput.toDocument_of_build hinput
  have hobjects : doc.proof = p.1.1.2.map ProofObject.toDocument := by
    rw [← Except.ok.inj hos]
    exact ProofObject.map_toDocument_of_mapM hobjects
  rw [toDocument, hid, hhash, hduration, hstamp, ← Except.ok.inj hlabel,
    ← Except.ok.inj htest, ← hinput, ← hobjects]

/-- What the fields of a document say of a record. -/
structure Said (r : ProofRecord) (fields : Fields) : Prop where
  declared : ∀ e ∈ fields, isDeclared RecordDocument.fieldNames e.1 = true
  format : ∀ d, valueAt? fields "format" = some d → d = .text recordFormat
  version : ∀ d, valueAt? fields "version" = some d → d = .text recordVersion
  id : required fields "record_id" text = .ok r.id.val
  input : ∃ es, valueAt? fields "input" = some (.dict es) ∧ r.input.Said es
  duration : required fields "duration_secs" double = .ok r.duration.val
  proofHash : required fields "proof_hash" text = .ok r.proofHash.val
  timestamp : required fields "timestamp" text = .ok r.timestamp.text
  testName : required fields "test_name" text = .ok r.testName
  sourceBranch : required fields "source_branch" text = .ok r.sourceLabel
  objects : required fields "proof" (sequence .notList ObjectDocument.check) =
    .ok (r.objects.map ProofObject.toDocument)

theorem required_input_iff {r : ProofRecord} {fields : Fields} :
    required fields "input" InputDocument.check = .ok r.input.toDocument ↔
      ∃ es, valueAt? fields "input" = some (.dict es) ∧ r.input.Said es := by
  rw [required_eq_ok_iff]
  constructor
  · rintro ⟨d, hd, h⟩
    obtain ⟨es, rfl, -⟩ := model_eq_ok h
    exact ⟨es, hd, ProveInput.check_toDocument_iff.mp h⟩
  · rintro ⟨es, hd, h⟩
    exact ⟨_, hd, ProveInput.check_toDocument_iff.mpr h⟩

theorem check_toDocument_iff {r : ProofRecord} {fields : Fields} :
    RecordDocument.check (.dict fields) = .ok r.toDocument ↔ r.Said fields := by
  constructor
  · intro h
    obtain ⟨⟨⟨⟨⟨format, version⟩, id, input⟩, ⟨duration, hash⟩, stamp, test⟩, branch, proof⟩,
      hclosed, hsame⟩ := map_eq_ok (mapError_eq_ok h)
    rw [toDocument] at hsame
    cases hsame
    obtain ⟨hdeclared, hfields⟩ := closed_eq_ok_iff.mp hclosed
    obtain ⟨hrest, htails⟩ := both_eq_ok hfields
    obtain ⟨hheads, hmiddle⟩ := both_eq_ok hrest
    obtain ⟨hnames, hheads⟩ := both_eq_ok hheads
    obtain ⟨hformat, hversion⟩ := both_eq_ok hnames
    obtain ⟨hid, hinput⟩ := both_eq_ok hheads
    obtain ⟨hnumbers, htexts⟩ := both_eq_ok hmiddle
    obtain ⟨hduration, hhash⟩ := both_eq_ok hnumbers
    obtain ⟨hstamp, htest⟩ := both_eq_ok htexts
    obtain ⟨hbranch, hproof⟩ := both_eq_ok htails
    exact ⟨hdeclared, (optional_literal_eq_ok_iff.mp hformat).2,
      (optional_literal_eq_ok_iff.mp hversion).2, hid, required_input_iff.mp hinput, hduration,
      hhash, hstamp, htest, hbranch, hproof⟩
  · intro h
    rw [RecordDocument.check, model, RecordDocument.ofFields,
      optional_literal_eq_ok_iff.mpr ⟨rfl, h.format⟩,
      optional_literal_eq_ok_iff.mpr ⟨rfl, h.version⟩, h.id, required_input_iff.mpr h.input,
      h.duration, h.proofHash, h.timestamp, h.testName, h.sourceBranch, h.objects,
      closed_of_declared h.declared]
    rfl

/-- A document is read as a record exactly when it says this record. -/
theorem load_eq_ok_iff {s : Source} {room : Json.Room} {r : ProofRecord} :
    s.load room = .ok r ↔
      ∃ es, s.document room = .ok (.dict es) ∧ r.Said (Json.toDataEntries es) := by
  rw [s.load_eq]
  constructor
  · intro h
    obtain ⟨j, hj, h⟩ := bind_eq_ok h
    cases j with
    | dict es =>
      obtain ⟨doc, hdoc, h⟩ := bind_eq_ok (mapError_eq_ok h)
      rw [toDocument_of_toRecord h] at hdoc
      exact ⟨es, hj, check_toDocument_iff.mp hdoc⟩
    | _ => cases h
  · rintro ⟨es, hes, h⟩
    rw [hes]
    simp only [bind, Except.bind, ofJson, ofDocument, Json.toData, check_toDocument_iff.mpr h,
      r.toRecord_toDocument]
    rfl

end ProofRecord

/-! ## All of it -/

namespace Words

/-- Fields make an input, and a document makes a record, exactly when they say it, and they say
words by values that are taken for them. Five values in a list or a tuple are taken for words when
each of them is taken for an integer of 64 bits: an integer, a truth value, a double without a
fraction, a numeral in a text or in octets, or a value of a further kind that is worth one. Of
integers only the words themselves will do, and their digits always do. How much room there is for
nested values says which documents there are and nothing else. -/
theorem converted_then_checked (fields : Fields) (i : ProveInput) (s : Source) (room : Json.Room)
    (r : ProofRecord) (ws : Words) (xs : List Data) :
    (ProveInput.build fields = .ok i ↔ i.Said fields) ∧
      (s.load room = .ok r ↔
        ∃ es, s.document room = .ok (.dict es) ∧ r.Said (Json.toDataEntries es)) ∧
      ((∃ ws : Words, ws.Given (.list xs)) ↔ Fit xs) ∧
      ((∃ ws : Words, ws.Given (.tuple xs)) ↔ Fit xs) ∧
      (ws.Given (.list xs) ∧ (∀ x ∈ xs, ∃ n, x = .int n) ↔ xs = ws.ints.map .int) ∧
      ws.Given (.list (ws.values.map fun w => .text (Text.ofNat w))) := by
  refine ⟨ProveInput.build_eq_ok_iff, ProofRecord.load_eq_ok_iff, ?_, ?_, given_and_int_iff,
    given_digits ws⟩
  · simp only [given_list_iff, exists_reads_iff]
  · simp only [given_tuple_iff, exists_reads_iff]

/-- Truth values among the words, in an input and in a document, where a text and a double are
taken as well. -/
theorem converted_truth :
    (∃ i, ProveInput.build [(("length" : Text), .int 2),
        (("block_commitment" : Text), .list [.bool true, .int 1, .int 1, .int 1, .int 1]),
        (("nonce" : Text), .tuple [.bool false, .int 1, .int 1, .int 1, .int 1])] = .ok i ∧
      i.blockCommitment.values = [1, 1, 1, 1, 1] ∧ i.nonce.values = [0, 1, 1, 1, 1]) ∧
      ∃ r, ProofRecord.loads (ProofRecord.spelling "2" "1.5") = .ok r ∧
        r.input.blockCommitment.values = [1, 1, 1, 1, 1] := by
  refine ⟨?_, ProofRecord.exists_of_spelling (by decide +kernel)⟩
  let ones : Words := ⟨[1, 1, 1, 1, 1], rfl, by decide⟩
  let noughtFirst : Words := ⟨[0, 1, 1, 1, 1], rfl, by decide⟩
  have hones : ones.Given (.list [.bool true, .int 1, .int 1, .int 1, .int 1]) :=
    given_list_iff.mpr (.cons (.truth true) (.cons (.integer 1) (.cons (.integer 1)
      (.cons (.integer 1) (.cons (.integer 1) .nil)))))
  have hnoughtFirst : noughtFirst.Given (.tuple [.bool false, .int 1, .int 1, .int 1, .int 1]) :=
    given_tuple_iff.mpr (.cons (.truth false) (.cons (.integer 1) (.cons (.integer 1)
      (.cons (.integer 1) (.cons (.integer 1) .nil)))))
  exact ⟨⟨2, ones, noughtFirst⟩,
    ProveInput.build_eq_ok_iff.mpr ⟨by decide, ⟨_, rfl, rfl⟩, ⟨_, rfl, hones⟩,
      ⟨_, rfl, hnoughtFirst⟩⟩, rfl, rfl⟩

end Words

end ProofLedger
