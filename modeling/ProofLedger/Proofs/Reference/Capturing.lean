import ProofLedger.Proofs.Calendar.Stamps
import ProofLedger.Proofs.Record.Timestamps
import ProofLedger.Proofs.Reference.Verdict
import ProofLedger.Proofs.Run.Derived
import ProofLedger.Proofs.Run.Storing

/-!
# Records of the reference prover

`record_made`: where the clock shows a time that UTC reaches and the timer runs, the reference
prover's proof becomes a record. The record is genuine, its name ends in the stamp of its time, and
it can be written to a file (`Made`). `makeRecord_eq` is what any prover needs for that: a record
is made of its own parts.
-/

namespace ProofLedger

/-! ## Making a record -/

/-- Names, tags and digits are scalar texts in any record. -/
theorem ProofRecord.scalar_texts {r : ProofRecord} (htime : r.timestamp.text.Scalar)
    (hlabel : r.sourceLabel.Scalar) (htestName : r.testName.Scalar) :
    ∀ t ∈ r.texts, t.Scalar := by
  have hdata (o : ProofObject) : Text.Scalar o.data.val := Text.Utf8.scalar_of_lt fun c hc =>
    Nat.lt_trans (lt_of_mem_hexField o.data.property c hc) (by decide)
  have hformat : recordFormat.Scalar ∧ recordVersion.Scalar := by decide
  intro t ht
  rcases List.mem_append.mp ht with ht | ht
  · simp only [List.mem_cons, List.not_mem_nil, or_false] at ht
    rcases ht with rfl | rfl | rfl | rfl | rfl | rfl | rfl
    · exact hformat.1
    · exact hformat.2
    · exact r.id.property.1
    · exact r.proofHash.property.1
    · exact htime
    · exact htestName
    · exact hlabel
  · obtain ⟨o, -, ht⟩ := List.mem_flatMap.mp ht
    simp only [List.mem_cons, List.not_mem_nil, or_false] at ht
    rcases ht with rfl | rfl
    · exact o.tag.property.1
    · exact hdata o

/-- Objects stay what they are. -/
theorem RawObject.mapM_object (os : List ProofObject) : (os.map object).mapM toObject = .ok os := by
  induction os with
  | nil => rfl
  | cons o os ih =>
    rw [List.map_cons, List.mapM_cons, ih]
    rfl

/-- A record is made of its own parts, from a clock that shows its time. -/
theorem Capture.makeRecord_eq {r : ProofRecord} {raw : List RawObject} {m : Moment}
    (hid : Identity.derive r.sourceLabel m = .ok r.id.val)
    (hobjects : raw.mapM RawObject.toObject = .ok r.objects)
    (hstamp : m.format = .ok r.timestamp.text) :
    makeRecord r.input (.text r.sourceLabel) (.text r.testName) raw (.text r.proofHash.val)
      r.duration.val m = .ok r := by
  have hidentify : identify (.text r.sourceLabel) m = .ok r.id.val := by
    rw [identify, hid, mapError_ok]
  have hbuild := r.buildWith_checkedFields
  rw [ProofRecord.checkedFields] at hbuild
  simp only [makeRecord, hidentify, hobjects, hstamp, mapError_ok, bind, Except.bind, hbuild]

namespace Reference

open Directory

/-- A record of the reference prover for an input, a label and a time. -/
structure Made (i : ProveInput) (label : Text) (u : Moment) (r : ProofRecord) : Prop where
  input : r.input = i
  genuine : Genuine r
  createdAt : r.createdAt = u
  named : r.id.val = Identity.slug label ++ 45 :: u.stampText
  written : ∃ content, documentOctets r = .ok content

/-- The answer of the reference prover becomes a record. -/
theorem exists_made {i : ProveInput} (hlength : i.length < 2 ^ 64) {label testName : Text}
    (hlabel : label.Scalar) (htestName : testName.Scalar) {m u : Moment}
    (haware : m.isAware = true) (hutc : m.utc? = some u) (duration : Duration)
    (hfinite : duration.val.isFinite = true) :
    ∃ raw digest r, prove i = .proved raw digest ∧
      Capture.makeRecord i (.text label) (.text testName) raw digest duration.val m = .ok r ∧
        Made i label u r := by
  obtain ⟨os, digest, hproof, hos, hdigest⟩ := exists_proof hlength
  obtain ⟨hzone, -⟩ := Moment.instant_of_utc? hutc
  have hderive : Identity.derive label m = .ok _ := Identity.derive_eq haware hutc
  have hexact := Identity.derive_exact hderive
  let r : ProofRecord :=
    { id := ⟨Identity.slug label ++ 45 :: u.stampText, hexact.scalar, hexact.ne_nil⟩
      input := i
      objects := os
      proofHash := ⟨digest, hash_scalar hdigest⟩
      duration := duration
      timestamp := Timestamp.ofUtc u hzone
      sourceLabel := label
      testName := testName }
  have hprove : prove i = .proved (os.map .object) (.text digest) := by rw [prove, hproof]
  have hmake := Capture.makeRecord_eq (r := r) hderive (RawObject.mapM_object os)
    (Moment.format_eq haware hutc)
  have htexts : ∀ t ∈ r.texts, t.Scalar :=
    ProofRecord.scalar_texts (Moment.scalar_fullText hzone) hlabel htestName
  have hfits : Number.fits i.length = true :=
    ProofRecord.fits_of_lt (Nat.lt_trans hlength (by decide))
  exact ⟨_, _, r, hprove, hmake, rfl, ⟨hos, hdigest⟩, rfl, rfl,
    exists_documentOctets hfinite hfits htexts⟩

/-- A capture with the reference prover comes to a record; the clock is read once for it. -/
theorem record_made {t : Instruments} {i : ProveInput} (hlength : i.length < 2 ^ 64)
    {label testName : Text} (hlabel : label.Scalar) (htestName : testName.Scalar) {w : World}
    {m u : Moment} (hclock : t.clock w.clockReads = .ok m) (haware : m.isAware = true)
    (hutc : m.utc? = some u)
    (htimer : ((t.timer (w.timerReads + 1)).sub (t.timer w.timerReads)).isFinite = true) :
    ∃ r w', Capture.record t prover i (.text label) (.text testName) w = (.ok r, w') ∧
      Act.Later 1 w w' ∧ Made i label u r := by
  obtain ⟨raw, digest, r, hprove, hmake, hmade⟩ := exists_made hlength hlabel htestName haware hutc
    ⟨_, Double.zero_le_max _⟩ (Double.isFinite_max htimer)
  exact ⟨r, _, Capture.record_eq hprove hclock hmake, ⟨rfl, rfl, rfl⟩, hmade⟩

end Reference

end ProofLedger
