import Mathlib.Data.List.Forall2
import ProofLedger.Proofs.Run.Derived

/-!
# What a record bears of a prover's answer

`makeRecord_bears`: when an answer becomes a record, the record has the objects of the answer in
their order, each octet for octet, and its hash. Octets go through hexadecimal digits on the way
and come back from them (`Text.Hex.decode?_encode`).
-/

namespace ProofLedger

/-! ## Octets and digits -/

theorem Text.Hex.digitValue?_hexDigit {n : Nat} (h : n < 16) :
    digitValue? (Utf8.hexDigit n) = some n := by
  have hall : ∀ n < 16, digitValue? (Utf8.hexDigit n) = some n := by decide
  exact hall n h

/-- Octets come back from their digits. -/
theorem Text.Hex.decode?_encode (bytes : Bytes) : decode? (encode bytes) = some bytes := by
  induction bytes with
  | nil => rfl
  | cons b r ih =>
    have hb := b.toNat_lt
    have hsplit : encode (b :: r) =
      Utf8.hexDigit (b.toNat / 16) :: Utf8.hexDigit (b.toNat % 16) :: encode r := rfl
    have hvalue : UInt8.ofNat (b.toNat / 16 * 16 + b.toNat % 16) = b := by
      rw [Nat.div_add_mod' b.toNat 16, UInt8.ofNat_toNat]
    rw [hsplit, decode?, digitValue?_hexDigit (by omega), digitValue?_hexDigit (by omega), ih]
    simp only [bind, Option.bind, pure, hvalue]

/-- No line feed is among the digits. -/
theorem Text.Hex.filter_encode (bytes : Bytes) : (encode bytes).filter (· ≠ 10) = encode bytes := by
  have hdigit : ∀ n < 16, Utf8.hexDigit n ≠ 10 := by decide
  refine List.filter_eq_self.mpr fun c hc => decide_eq_true ?_
  obtain ⟨b, -, hc⟩ := List.mem_flatMap.mp hc
  have hb := b.toNat_lt
  rcases List.mem_cons.mp hc with rfl | hc
  · exact hdigit _ (by omega)
  · exact List.mem_singleton.mp hc ▸ hdigit _ (by omega)

/-! ## Objects -/

/-- The object is the one of the answer: itself, or one of the same tag and the same octets. -/
def RawObject.Bears : RawObject → ProofObject → Prop
  | .object made, o => made = o
  | .other d, o => ∃ tag content, pair d = .ok (tag, content) ∧
      Intake.name tag = .ok o.tag ∧ payload content = .ok o.payload

theorem ProofObject.checkData_eq_ok {t : Text} {data : { t : Text // isHexField t = true }}
    (h : checkData (.text t) = .ok data) : data.val = t := by
  simp only [checkData, Intake.text, bind, Except.bind] at h
  split at h
  · cases h
    rfl
  · cases h

/-- An object made from octets has these octets. -/
theorem ProofObject.ofBytes_eq_ok {tag : Data} {octets : Bytes} {o : ProofObject}
    (h : ofBytes tag octets = .ok o) : Intake.name tag = .ok o.tag ∧ o.payload = octets := by
  obtain ⟨p, hclosed, rfl⟩ := map_eq_ok (mapError_eq_ok h)
  obtain ⟨htag, hdata⟩ := Intake.both_eq_ok (Intake.closed_eq_ok hclosed)
  have hdigits : p.2.val = Text.Hex.encode octets :=
    checkData_eq_ok (Intake.required_eq_ok rfl hdata)
  refine ⟨Intake.required_eq_ok rfl htag, ?_⟩
  simp only [payload, hdigits, Text.Hex.filter_encode, Text.Hex.decode?_encode, Option.getD_some]

theorem RawObject.bears_of_toObject {raw : RawObject} {o : ProofObject}
    (h : raw.toObject = .ok o) : raw.Bears o := by
  cases raw with
  | object made => exact Except.ok.inj h
  | other d =>
    obtain ⟨⟨tag, content⟩, hpair, h⟩ := bind_eq_ok h
    obtain ⟨octets, hoctets, h⟩ := bind_eq_ok h
    obtain ⟨htag, hpayload⟩ := ProofObject.ofBytes_eq_ok (mapError_eq_ok h)
    exact ⟨tag, content, mapError_eq_ok hpair, htag, hpayload ▸ mapError_eq_ok hoctets⟩

theorem RawObject.forall₂_bears {raw : List RawObject} {os : List ProofObject}
    (h : raw.mapM toObject = .ok os) : List.Forall₂ Bears raw os := by
  induction raw generalizing os with
  | nil =>
    cases h
    exact .nil
  | cons x raw ih =>
    rw [List.mapM_cons] at h
    obtain ⟨o, ho, h⟩ := bind_eq_ok h
    obtain ⟨rest, hrest, h⟩ := bind_eq_ok h
    cases h
    exact .cons (bears_of_toObject ho) (ih hrest)

/-! ## Records -/

/-- A record has the objects of an answer in their order, and its hash. -/
def ProveAnswer.Bears (answer : ProveAnswer) (r : ProofRecord) : Prop :=
  ∃ raw hash, answer = .proved raw hash ∧ List.Forall₂ RawObject.Bears raw r.objects ∧
    Intake.name hash = .ok r.proofHash

namespace Capture

theorem makeRecord_bears {i : ProveInput} {label testName : Data} {raw : List RawObject}
    {hash : Data} {duration : Double} {created : Moment} {r : ProofRecord}
    (h : makeRecord i label testName raw hash duration created = .ok r) :
    r.input = i ∧ (ProveAnswer.proved raw hash).Bears r := by
  obtain ⟨id, -, h⟩ := bind_eq_ok h
  obtain ⟨objects, hobjects, h⟩ := bind_eq_ok h
  obtain ⟨stamp, -, h⟩ := bind_eq_ok h
  obtain ⟨p, hclosed, rfl⟩ := map_eq_ok (mapError_eq_ok (mapError_eq_ok h))
  obtain ⟨hheads, -⟩ := Intake.both_eq_ok (Intake.closed_eq_ok hclosed)
  obtain ⟨hheads, hmiddle⟩ := Intake.both_eq_ok hheads
  obtain ⟨hinput, hos⟩ := Intake.both_eq_ok hheads
  have hhash := (Intake.both_eq_ok (Intake.both_eq_ok hmiddle).1).1
  refine ⟨(Except.ok.inj (Intake.both_eq_ok hinput).2).symm, raw, hash, rfl, ?_,
    Intake.required_eq_ok rfl hhash⟩
  rw [← Except.ok.inj hos]
  exact RawObject.forall₂_bears hobjects

/-- What `proveWith` returns is the prover's answer. -/
theorem proveWith_eq_ok {p : Prover} {i : ProveInput} {w w' : World} {raw : List RawObject}
    {hash : Data} (h : proveWith p i w = (.ok (raw, hash), w')) :
    p.prove w.proverCalls i = .proved raw hash := by
  obtain ⟨answer, w₁, hask, h⟩ := Act.bind_eq_ok h
  have hanswer : p.prove w.proverCalls i = answer := Except.ok.inj (congrArg Prod.fst hask)
  cases answer with
  | proved raw hash =>
    cases h
    exact hanswer
  | failed => cases h
  | raised => cases h

/-- The record of a capture bears what the prover answered. -/
theorem record_bears {t : Instruments} {p : Prover} {i : ProveInput} {label testName : Data}
    {w w' : World} {r : ProofRecord} (h : record t p i label testName w = (.ok r, w')) :
    r.input = i ∧ (p.prove w.proverCalls i).Bears r := by
  obtain ⟨_, w₁, hreport, h⟩ := Act.bind_eq_ok h
  obtain ⟨started, w₂, htimer, h⟩ := Act.bind_eq_ok h
  obtain ⟨⟨raw, hash⟩, w₃, hprove, h⟩ := Act.bind_eq_ok h
  obtain ⟨duration, w₄, -, h⟩ := Act.bind_eq_ok h
  obtain ⟨created, w₅, -, h⟩ := Act.bind_eq_ok h
  obtain ⟨r', w₆, hmake, h⟩ := Act.bind_eq_ok h
  obtain ⟨_, w₇, -, h⟩ := Act.bind_eq_ok h
  cases h
  have hcalls : w.proverCalls = w₂.proverCalls :=
    (congrArg (·.2.proverCalls) hreport).trans (congrArg (·.2.proverCalls) htimer)
  rw [hcalls, proveWith_eq_ok hprove]
  exact makeRecord_bears (congrArg Prod.fst hmake)

end Capture

end ProofLedger
