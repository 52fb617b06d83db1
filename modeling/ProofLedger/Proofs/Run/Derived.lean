import ProofLedger.Proofs.Record.Accepted
import ProofLedger.Proofs.Run.Quiet
import ProofLedger.Proofs.Store.Names

/-!
# The names of captured records

`record_exact`: whatever the label, the clock and the prover, the record of a capture has an
exact name, so an index gives it back. A derived name is a slug, a dash and a stamp:
`slug_exact` says what slugs look like, `isNamePoint_stampText` what stamps are made of, and
`id_of_buildWith` that a record is built with the name that it is given.
-/

namespace ProofLedger

/-! ## Slugs and stamps -/

/-- What is left of a text starts with something that does not go. -/
theorem Text.head_stripBy {p : Nat → Bool} {t r : Text} {c : Nat} (h : stripBy p t = c :: r) :
    p c = false := by
  have hprefix : stripBy p t <+: t.dropWhile p := by
    rw [← List.reverse_suffix, stripBy, List.reverse_reverse]
    exact List.dropWhile_suffix p
  obtain ⟨s, hs⟩ := hprefix
  rw [h, List.cons_append] at hs
  have hhead := List.head?_dropWhile_not p t
  rw [← hs] at hhead
  exact hhead

theorem Text.mem_of_mem_stripBy {p : Nat → Bool} {t : Text} {c : Nat} (h : c ∈ stripBy p t) :
    c ∈ t := by
  rw [stripBy, List.mem_reverse] at h
  have hmem := (List.dropWhile_suffix p).subset h
  exact (List.dropWhile_suffix p).subset (List.mem_reverse.mp hmem)

namespace Identity

/-- A label with its other code points replaced is made of name points. -/
theorem isNamePoint_dashRuns (label : Text) (dashed : Bool) :
    ∀ c ∈ dashRuns dashed label, isNamePoint c = true := by
  induction label generalizing dashed with
  | nil => simp [dashRuns]
  | cons x label ih =>
    intro c hc
    rw [dashRuns] at hc
    split at hc
    · next hx =>
      rcases List.mem_cons.mp hc with rfl | hc
      · simp [isNamePoint, hx]
      · exact ih false c hc
    · split at hc
      · exact ih true c hc
      · rcases List.mem_cons.mp hc with rfl | hc
        · rfl
        · exact ih true c hc

/-- A slug is an exact name itself. -/
theorem slug_exact (label : Text) : IsExact (slug label) := by
  unfold slug
  split
  · exact ⟨_, _, rfl, by decide, by decide⟩
  · next t hne =>
    cases hstrip : Text.stripBy isTrim (dashRuns false label) with
    | nil => exact absurd hstrip hne
    | cons c r =>
      have hpoint : ∀ x ∈ c :: r, isNamePoint x = true := by
        intro x hx
        rw [← hstrip] at hx
        exact isNamePoint_dashRuns label false x (Text.mem_of_mem_stripBy hx)
      have htrim := Text.head_stripBy hstrip
      have hword : Text.isWord c = true := by
        have hc := hpoint c List.mem_cons_self
        simp only [isTrim, Bool.or_eq_false_iff] at htrim
        simpa [isNamePoint, isSlugPoint, htrim] using hc
      exact ⟨c, r, rfl, hword, fun x hx => hpoint x (List.mem_cons_of_mem _ hx)⟩

theorem isNamePoint_of_isDigit {c : Nat} (h : Text.isDigit c = true) : isNamePoint c = true := by
  simp [isNamePoint, isSlugPoint, Text.isWord, h]

theorem isNamePoint_stampText (m : Moment) : ∀ c ∈ m.stampText, isNamePoint c = true := by
  have hpadded : ∀ width n, ∀ c ∈ Text.ofNatPadded width n, isNamePoint c = true :=
    fun width n c hc => isNamePoint_of_isDigit (Text.all_isDigit_padded width n c hc)
  have hyear : ∀ n, ∀ c ∈ Text.ofNat n, isNamePoint c = true :=
    fun n c hc => isNamePoint_of_isDigit (Text.all_isDigit_ofNat n c hc)
  intro c hc
  simp only [Moment.stampText, Moment.two, List.mem_append] at hc
  rcases hc with ((((((((hc | hc) | hc) | hc) | hc) | hc) | hc) | hc) | hc)
  · exact hyear _ c hc
  · exact hpadded _ _ c hc
  · exact hpadded _ _ c hc
  · exact (by decide : ∀ c ∈ ("T" : Text), isNamePoint c = true) c hc
  · exact hpadded _ _ c hc
  · exact hpadded _ _ c hc
  · exact hpadded _ _ c hc
  · exact hpadded _ _ c hc
  · exact (by decide : ∀ c ∈ ("Z" : Text), isNamePoint c = true) c hc

/-- A derived name is exact. -/
theorem derive_exact {label : Text} {m : Moment} {id : Text} (h : derive label m = .ok id) :
    IsExact id := by
  rw [derive] at h
  split at h
  · cases h
  · split at h
    · next u _ =>
      cases h
      obtain ⟨c, r, hslug, hc, hr⟩ := slug_exact label
      refine ⟨c, r ++ 45 :: u.stampText, by rw [hslug]; rfl, hc, fun x hx => ?_⟩
      rcases List.mem_append.mp hx with hx | hx
      · exact hr x hx
      · rcases List.mem_cons.mp hx with rfl | hx
        · rfl
        · exact isNamePoint_stampText u x hx
    · cases h

end Identity

/-! ## Records by their names -/

/-- A record is built with the name that it is given first. -/
theorem ProofRecord.id_of_buildWith {input : ProveInput} {objects : List ProofObject} {id : Text}
    {fields : Intake.Fields} {r : ProofRecord}
    (h : buildWith input objects ((("record_id" : Text), .text id) :: fields) = .ok r) :
    r.id.val = id := by
  obtain ⟨p, hclosed, rfl⟩ := map_eq_ok (mapError_eq_ok h)
  have hheads := (Intake.both_eq_ok (Intake.both_eq_ok (Intake.closed_eq_ok hclosed)).1).1
  have hid := (Intake.both_eq_ok (Intake.both_eq_ok hheads).1).1
  have hname : Intake.name (.text id) = .ok p.1.1.1.1 := Intake.required_eq_ok rfl hid
  exact Intake.name_eq_ok hname

namespace Capture

open Act

theorem makeRecord_exact {i : ProveInput} {label testName : Data} {raw : List RawObject}
    {hash : Data} {duration : Double} {created : Moment} {r : ProofRecord}
    (h : makeRecord i label testName raw hash duration created = .ok r) :
    Identity.IsExact r.id.val := by
  obtain ⟨id, hid, h⟩ := bind_eq_ok h
  obtain ⟨objects, -, h⟩ := bind_eq_ok h
  obtain ⟨stamp, -, h⟩ := bind_eq_ok h
  rw [ProofRecord.id_of_buildWith (mapError_eq_ok h)]
  cases label with
  | text t => exact Identity.derive_exact (mapError_eq_ok hid)
  | _ => cases hid

/-- The record of a capture has an exact name. -/
theorem record_exact (t : Instruments) (p : Prover) (i : ProveInput) (label testName : Data) :
    Act.Yields (record t p i label testName) fun r => Identity.IsExact r.id.val :=
  .bind fun _ => .bind fun _ => .bind fun (_, _) => .bind fun _ => .bind fun _ =>
  .andThen (yields_lift fun _ => makeRecord_exact) fun _ hr => .bind fun _ => yields_pure hr

end Capture

end ProofLedger
