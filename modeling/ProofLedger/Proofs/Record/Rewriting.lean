import Mathlib.Data.List.TakeWhile
import ProofLedger.Proofs.Json.Bounds
import ProofLedger.Proofs.Record.RoundTrip

/-!
# Records written again

A record can be read from a text or from octets (`Source`) in many spellings, of which writing
knows one. `rewritten`: whatever a record was read from, it can be written, what is written reads
back as it, and writing once more gives the same text. The length of the input is the only number
of a record that might not fit a numeral, and `fits_of_load` says that it does: it comes from an
integer that the reader took, or from a text that is no longer than a numeral.

The reader takes an infinite duration, and the writer refuses one. That is the only record that
is read and cannot be written (`rewritten_infinite`).
-/

namespace ProofLedger

/-- What a record can be read from. -/
inductive Source where
  | text (t : Text)
  | octets (b : Bytes)
  deriving DecidableEq, Repr

namespace Source

/-- The record that is read where there is so much room; without a bound if nothing is said. -/
def load (s : Source) (room : Json.Room := none) : Except LoadFault ProofRecord :=
  match s with
  | .text t => ProofRecord.loads t room
  | .octets b => ProofRecord.loadsBytes b room

/-- The document that is read, before it is taken for a record. -/
def document (s : Source) (room : Json.Room := none) : Except LoadFault Json :=
  match s with
  | .text t => (Json.read t room).mapError .ofReadFault
  | .octets b => (Json.readBytes b room).mapError fun
    | .undecodable => .undecodable
    | .read f => .ofReadFault f

theorem load_eq (s : Source) (room : Json.Room) :
    s.load room = s.document room >>= ProofRecord.ofJson := by
  cases s with
  | text t => rfl
  | octets b =>
    rw [load, ProofRecord.loadsBytes, document]
    rcases Json.readBytes b room with (_ | f) | j <;> rfl

/-- The integers of the document fit a numeral. -/
theorem fits_document {s : Source} {room : Json.Room} {j : Json} (h : s.document room = .ok j) :
    j.fits = true := by
  cases s with
  | text t => exact (Json.read_bounds t room).fits j (mapError_eq_ok h)
  | octets b =>
    have hread := mapError_eq_ok h
    rw [Json.readBytes_eq] at hread
    split at hread
    · cases hread
    · next t _ => exact (Json.readWhole_bounds t room).fits j (mapError_eq_ok hread)

end Source

/-! ## Integers that were taken -/

namespace Number

theorem fits_neg {n : Int} (h : fits n = true) : fits (-n) = true := by
  rw [fits, Int.natAbs_neg]
  exact h

theorem fits_of_natAbs_lt {n : Int} (h : n.natAbs < 2 ^ 64) : fits n = true := by
  have hfits := ProofRecord.fits_of_lt (Nat.lt_trans h (by decide : 2 ^ 64 < 10 ^ 100))
  rw [fits, Int.natAbs_natCast] at hfits
  exact hfits

end Number

namespace Intake

/-- A text that is taken for an integer is no longer than a numeral. -/
theorem fits_of_intOfText {d : Data} {t : Text} {n : Int} (h : intOfText d t = .ok n) :
    Number.fits n = true := by
  unfold intOfText at h
  split at h
  · cases h
  · next numeral _ =>
    rcases hcut : cutMinus numeral with ⟨negative, body⟩
    simp only [hcut] at h
    split at h
    · cases h
    · split at h
      · cases h
      · next hshort =>
        split at h
        · next m hm =>
          cases h
          unfold Number.natOfDigits? at hm
          split at hm
          · next hdigits =>
            cases hm
            have hall := List.all_eq_true.mp (Bool.and_eq_true_iff.mp hdigits).2
            have hlength : body.length ≤ Number.maxDigits := by
              rw [isLong, List.takeWhile_eq_self_iff.mpr hall, decide_eq_true_eq] at hshort
              have hsame : maxNumeral = Number.maxDigits := rfl
              omega
            have hlt : Text.natValue body < 10 ^ Number.maxDigits :=
              Nat.lt_of_lt_of_le (Text.natValue_lt hall)
                (Nat.pow_le_pow_right (by decide) hlength)
            have hfits : Number.fits (Text.natValue body) = true := by
              rw [Number.fits, Int.natAbs_natCast]
              exact decide_eq_true hlt
            cases negative with
            | true => exact Number.fits_neg hfits
            | false => exact hfits
          · cases hm
        · cases h

/-- What is taken for an integer fits a numeral, whatever it was. -/
theorem fits_of_int {j : Json} (hj : j.fits = true) {n : Int} (h : int j.toData = .ok n) :
    Number.fits n = true := by
  cases j with
  | null => cases h
  | list xs => cases h
  | dict es => cases h
  | bool b =>
    cases h
    cases b <;> exact Number.fits_of_natAbs_lt (by decide)
  | int m =>
    cases h
    exact hj
  | double x =>
    rw [Json.toData, int] at h
    split at h
    · cases h
    · split at h
      · cases h
      · split at h
        · next hlt =>
          cases h
          exact Number.fits_of_natAbs_lt (Nat.lt_trans hlt (by decide))
        · cases h
  | text t =>
    rw [Json.toData, int] at h
    split at h
    · exact fits_of_intOfText h
    · cases h

theorem fits_of_nat {j : Json} (hj : j.fits = true) {n : Nat} (h : nat j.toData = .ok n) :
    Number.fits n = true := by
  obtain ⟨m, hm, h⟩ := bind_eq_ok h
  cases m with
  | ofNat m =>
    cases h
    exact fits_of_int hj hm
  | negSucc m => cases h

/-- The value under a name is one of the document's. -/
theorem exists_of_valueAt? {es : List (Text × Json)} {name : Text} {d : Data}
    (h : valueAt? (Json.toDataEntries es) name = some d) : ∃ e ∈ es, e.2.toData = d := by
  obtain ⟨x, hx, rfl⟩ := Option.map_eq_some_iff.mp h
  have hmem := List.mem_of_find?_eq_some hx
  rw [Json.toDataEntries_eq] at hmem
  obtain ⟨o, ho, rfl⟩ := List.mem_map.mp hmem
  obtain ⟨e, he, rfl⟩ := List.mem_map.mp ho
  exact ⟨e, he, rfl⟩

/-- The value of a field that has passed is a part of the document. -/
theorem exists_part {α : Type} {es : List (Text × Json)} (hes : (Json.dict es).fits = true)
    {name : Text} {check : Data → Checked α} {a : α}
    (h : required (Json.toDataEntries es) name check = .ok a) :
    ∃ j : Json, j.fits = true ∧ check j.toData = .ok a := by
  obtain ⟨d, hd, hcheck⟩ := exists_of_required h
  obtain ⟨e, he, rfl⟩ := exists_of_valueAt? hd
  exact ⟨e.2, Json.fitsEntries_iff.mp hes e he, hcheck⟩

end Intake

/-! ## The length of an input that was read -/

theorem InputDocument.fits_of_check {j : Json} (hj : j.fits = true) {i : InputDocument}
    (h : check j.toData = .ok i) : Number.fits i.length = true := by
  obtain ⟨fields, hfields, h⟩ := Intake.model_eq_ok h
  cases j with
  | dict es =>
    cases hfields
    obtain ⟨p, hclosed, rfl⟩ := map_eq_ok h
    have hlength := (Intake.both_eq_ok (Intake.both_eq_ok (Intake.closed_eq_ok hclosed)).1).1
    obtain ⟨v, hv, hnat⟩ := Intake.exists_part hj hlength
    exact Intake.fits_of_nat hv hnat
  | _ => cases hfields

theorem RecordDocument.fits_of_check {j : Json} (hj : j.fits = true) {doc : RecordDocument}
    (h : check j.toData = .ok doc) : Number.fits doc.input.length = true := by
  obtain ⟨fields, hfields, h⟩ := Intake.model_eq_ok (mapError_eq_ok h)
  cases j with
  | dict es =>
    cases hfields
    obtain ⟨p, hclosed, rfl⟩ := map_eq_ok h
    have hheads :=
      (Intake.both_eq_ok (Intake.both_eq_ok (Intake.closed_eq_ok hclosed)).1).1
    have hinput := (Intake.both_eq_ok (Intake.both_eq_ok hheads).2).2
    obtain ⟨v, hv, hcheck⟩ := Intake.exists_part hj hinput
    exact InputDocument.fits_of_check hv hcheck
  | _ => cases hfields

theorem ProveInput.length_of_build {i : InputDocument} {input : ProveInput}
    (h : build i.toFields = .ok input) : input.length = i.length := by
  obtain ⟨p, hclosed, rfl⟩ := map_eq_ok (mapError_eq_ok h)
  have hlength := (Intake.both_eq_ok (Intake.both_eq_ok (Intake.closed_eq_ok hclosed)).1).1
  have hnat : Intake.nat (.int i.length) = .ok p.1.1 := Intake.required_eq_ok rfl hlength
  exact (Except.ok.inj hnat).symm

namespace ProofRecord

/-- A record is built with the input that it is given. -/
theorem input_of_buildWith {input : ProveInput} {objects : List ProofObject}
    {fields : Intake.Fields} {r : ProofRecord} (h : buildWith input objects fields = .ok r) :
    r.input = input := by
  obtain ⟨p, hclosed, rfl⟩ := map_eq_ok (mapError_eq_ok h)
  have hheads := (Intake.both_eq_ok (Intake.both_eq_ok (Intake.closed_eq_ok hclosed)).1).1
  exact (Except.ok.inj (Intake.both_eq_ok (Intake.both_eq_ok hheads).1).2).symm

theorem fits_of_ofDocument {j : Json} (hj : j.fits = true) {r : ProofRecord}
    (h : ofDocument j.toData = .ok r) : Number.fits r.input.length = true := by
  obtain ⟨doc, hdoc, h⟩ := bind_eq_ok h
  obtain ⟨input, hinput, h⟩ := bind_eq_ok h
  obtain ⟨objects, -, h⟩ := bind_eq_ok h
  rw [input_of_buildWith h, ProveInput.length_of_build hinput]
  exact RecordDocument.fits_of_check hj hdoc

/-- The length of the input of a record that was read fits a numeral. -/
theorem fits_of_load {s : Source} {r : ProofRecord} (h : s.load = .ok r) :
    Number.fits r.input.length = true := by
  rw [s.load_eq none] at h
  obtain ⟨j, hj, h⟩ := bind_eq_ok h
  cases j with
  | dict es => exact fits_of_ofDocument (Source.fits_document hj) (mapError_eq_ok h)
  | _ => cases h

/-! ## Writing what was read -/

/-- A record whose length fits a numeral can only be refused for its duration. -/
theorem dumps_eq_error {r : ProofRecord} (hfits : Number.fits r.input.length = true)
    (hinfinite : r.duration.val.isFinite = false) :
    r.dumps = .error (.notFinite r.duration.val) := by
  cases hj : r.document.toJson with
  | ok j =>
    have hfinite := ((exists_dumps_iff r).mp ⟨j.pretty, by rw [dumps, hj]; rfl⟩).1
    rw [hinfinite] at hfinite
    cases hfinite
  | error f =>
    rw [dumps, hj]
    rw [document_eq] at hj
    obtain ⟨e, he, herror⟩ := Data.toJson_dict_eq_error hj
    have hobjects : ∃ v, (Data.list (r.objects.map ProofObject.toData)).toJson = .ok v := by
      refine Data.exists_toJson_list fun x hx => ?_
      obtain ⟨o, -, rfl⟩ := List.mem_map.mp hx
      exact exists_toJson_object o
    obtain ⟨v, hv⟩ := exists_toJson_input hfits
    obtain ⟨v', hv'⟩ := hobjects
    simp only [entries, List.mem_cons, List.not_mem_nil, or_false] at he
    rcases he with rfl | rfl | rfl | rfl | rfl | rfl | rfl | rfl | rfl | rfl
    · cases herror
    · cases herror
    · cases herror
    · cases hv.symm.trans herror
    · rw [Data.toJson, hinfinite] at herror
      cases herror
      rfl
    · cases herror
    · cases herror
    · cases herror
    · cases herror
    · cases hv'.symm.trans herror

/-- A record that was read, from whatever text or octets, can be written unless its duration is
infinite, and then it reads back from what is written; so reading that and writing once more
changes nothing. An infinite duration is what the writer refuses. -/
theorem rewritten (s : Source) (r : ProofRecord) (h : s.load = .ok r) :
    (r.duration.val.isFinite = true ∧ ∃ t, r.dumps = .ok t ∧ loads t = .ok r ∧
        (∀ b, t.octets = .ok b → loadsBytes b = .ok r) ∧
        (loads t).toOption.map dumps = some (.ok t)) ∨
      (r.duration.val.isFinite = false ∧ r.dumps = .error (.notFinite r.duration.val)) := by
  have hfits := fits_of_load h
  cases hfinite : r.duration.val.isFinite with
  | false => exact .inr ⟨rfl, dumps_eq_error hfits hfinite⟩
  | true =>
    obtain ⟨t, ht⟩ := (exists_dumps_iff r).mpr ⟨hfinite, hfits⟩
    obtain ⟨j, hj, rfl⟩ := map_eq_ok ht
    have hroom := Json.Room.holds_none depth
    have hload := loads_pretty hj hroom
    refine .inl ⟨rfl, j.pretty, ht, hload, fun b hb => ?_, ?_⟩
    · obtain ⟨hscalar, rfl⟩ := Text.octets_eq_ok_iff.mp hb
      exact loadsBytes_pretty hj hroom hscalar
    · rw [hload, ← ht]
      rfl

/-- A document without a format, and with a length and a duration in the given spelling. -/
def spelling (length duration : Text) : Text :=
  "\x7b\"record_id\":\"a\",\"input\":\x7b\"length\":" ++ length ++
    ",\"block_commitment\":[1,true,\"1\",1.0,1],\"nonce\":[1,1,1,1,1]\x7d,\"duration_secs\":" ++
    duration ++ ",\"proof_hash\":\"h\",\"timestamp\":\"2026-10-19T12:00:00+00:00\"," ++
    "\"test_name\":\"\",\"source_branch\":\"b\",\"proof\":[]\x7d"

theorem exists_of_spelling {α : Type} {f : ProofRecord → α} {a : α} {length duration : Text}
    (h : (loads (spelling length duration)).toOption.map f = some a) :
    ∃ r, loads (spelling length duration) = .ok r ∧ f r = a := by
  cases hload : loads (spelling length duration) with
  | error fault =>
    rw [hload] at h
    cases h
  | ok r =>
    rw [hload] at h
    exact ⟨r, rfl, Option.some.inj h⟩

/-- A length and a duration may even be texts. -/
theorem rewritten_lax : ∃ r t, loads (spelling "\" +03_0.0 \"" "\"1.5\"") = .ok r ∧
    r.dumps = .ok t ∧ loads t = .ok r := by
  obtain ⟨r, hload, hfinite⟩ :
      ∃ r, loads (spelling "\" +03_0.0 \"" "\"1.5\"") = .ok r ∧ r.duration.val.isFinite = true :=
    exists_of_spelling (by decide +kernel)
  rcases rewritten (.text _) r hload with ⟨-, t, ht, hagain, -⟩ | ⟨hinfinite, -⟩
  · exact ⟨r, t, hload, ht, hagain⟩
  · rw [hfinite] at hinfinite
    cases hinfinite

/-- A record that is read and cannot be written. -/
theorem rewritten_infinite :
    ∃ r, loads (spelling "2" "Infinity") = .ok r ∧ ∀ t, r.dumps ≠ .ok t := by
  obtain ⟨r, hload, hinfinite⟩ :
      ∃ r, loads (spelling "2" "Infinity") = .ok r ∧ r.duration.val.isFinite = false :=
    exists_of_spelling (by decide +kernel)
  refine ⟨r, hload, fun t ht => ?_⟩
  have hfinite := ((exists_dumps_iff r).mp ⟨t, ht⟩).1
  rw [hinfinite] at hfinite
  cases hfinite

end ProofRecord

end ProofLedger
