import ProofLedger.Capture
import ProofLedger.Proofs.Store.Files

/-!
# Putting a record into any store

What a put comes to on a store whose files hold anything at all, for either slot. `put_get`: a
record that was put is got back, also when its file was there before and had line ends of another
kind. `put_fails`: a put that fails does so with an error of the ledger or of the disk, unless one
of the causes of `Hindrance` is behind it, which are about the record or about a damaged file.
-/

namespace ProofLedger

namespace Plan

variable {α β : Type}

theorem outcome_after_eq_ok {x : Except Failure α} {next : α → Plan β} {b : β}
    (h : (after x next).outcome = .ok b) :
    ∃ a, x = .ok a ∧ after x next = next a ∧ (next a).outcome = .ok b := by
  cases x with
  | error f => cases h
  | ok a => exact ⟨a, rfl, rfl, h⟩

theorem outcome_after_eq_error {x : Except Failure α} {next : α → Plan β} {f : Failure}
    (h : (after x next).outcome = .error f) :
    x = .error f ∨ ∃ a, x = .ok a ∧ (next a).outcome = .error f := by
  cases x with
  | error e => exact .inl (congrArg Except.error (Except.error.inj h))
  | ok a => exact .inr ⟨a, rfl, h⟩

theorem outcome_andThen_eq_error {p : Plan α} {next : α → Plan β} {f : Failure}
    (h : (p.andThen next).outcome = .error f) :
    p.outcome = .error f ∨ ∃ a, p.outcome = .ok a ∧ (next a).outcome = .error f := by
  cases hp : p.outcome with
  | error e =>
    rw [outcome_andThen_error hp] at h
    exact .inl (congrArg Except.error (Except.error.inj h))
  | ok a =>
    rw [outcome_andThen_ok hp] at h
    exact .inr ⟨a, rfl, h⟩

end Plan

namespace Directory

variable {d : Directory} {r : ProofRecord} {s : Slot}

/-! ## What was put is there -/

/-- A record is got when a file with its text stands under its name. -/
theorem get_of_sameText {content : Bytes} (hname : Identity.isStorable r.id.val = true)
    (hlength : d.checkLength r.id.val = .ok ())
    (hplace : d.site.check (recordName r.id.val) = .ok ())
    (hfile : d.file? r.id.val = some content) (hsame : sameText r content = .ok ()) :
    d.get r.id.val = .ok r := by
  have hload : ProofRecord.loadsBytes content d.site.room = .ok r := by
    obtain ⟨found, hfound, hrest⟩ := bind_eq_ok hsame
    obtain ⟨t, ht, heq⟩ := bind_eq_ok hrest
    obtain ⟨j, hj, rfl⟩ := map_eq_ok (mapError_eq_ok ht)
    rw [readText] at hfound
    split at hfound
    · next text htext =>
      cases hfound
      obtain ⟨hscalar, rfl⟩ := Text.Utf8.encode_of_decode htext
      split at heq
      · next hlines => exact ProofRecord.loadsBytes_newlines hj d.site.room_holds hscalar hlines
      · cases heq
    · cases hfound
  have hfound : d.content r.id.val = .ok content := by
    rw [Directory.content, checkName_eq_ok_iff.mpr hname, hlength, hplace, hfile]
    rfl
  rw [get, hfound]
  simp only [bind, Except.bind, hload, mapError_ok]

/-- What is made sure of is got. -/
theorem ensure_get (hname : Identity.isStorable r.id.val = true)
    (h : (d.ensure r).outcome = .ok ()) : ((d.ensure r).final d).get r.id.val = .ok r := by
  obtain ⟨_, hlength, heq, h⟩ := Plan.outcome_after_eq_ok h
  rw [ensure, heq]
  obtain ⟨_, hplace, heq, h⟩ := Plan.outcome_after_eq_ok h
  rw [heq]
  cases hfile : d.file? r.id.val with
  | some content =>
    rw [hfile] at h
    obtain ⟨_, hsame, heq, h⟩ := Plan.outcome_after_eq_ok h
    simp only [heq]
    exact get_of_sameText hname hlength hplace hfile hsame
  | none =>
    rw [hfile] at h
    obtain ⟨content, hcontent, heq, h⟩ := Plan.outcome_after_eq_ok h
    simp only [heq]
    exact Stores.get ⟨hname, content, hcontent, (create_ends d r.id.val content).of_ok h⟩

/-- A record that was put, into either slot, is got back. -/
theorem put_get (h : (d.put r s).outcome = .ok ()) :
    ((d.put r s).final d).get r.id.val = .ok r := by
  cases s with
  | history => exact ((putHistory_ends d r).of_ok h).get
  | baseline =>
    obtain ⟨current, -, heq, h⟩ := Plan.outcome_after_eq_ok h
    rw [put, putBaseline, heq]
    obtain ⟨_, -, heq, h⟩ := Plan.outcome_after_eq_ok h
    rw [heq]
    obtain ⟨_, hname, heq, h⟩ := Plan.outcome_after_eq_ok h
    rw [heq]
    cases hensure : (d.ensure r).outcome with
    | error f =>
      rw [Plan.outcome_andThen_error hensure] at h
      cases h
    | ok u =>
      rw [Plan.final_andThen_ok hensure]
      -- the pointer moves, and the record files stay
      exact get_of_grows rfl (fun _ hfile => hfile)
        (ensure_get (checkName_eq_ok_iff.mp hname) hensure)

/-! ## What keeps a record out -/

/-- What keeps a record out of a slot apart from errors of the ledger and of the disk: the record
has no octets, or, for the baseline, a file that has to be read cannot be. -/
inductive Hindrance (d : Directory) (r : ProofRecord) : Slot → Failure → Prop
  | octets {s : Slot} {f : Failure} (h : documentOctets r = .error f) : Hindrance d r s f
  | pointer {f : Failure} (h : d.pointed = .error f) : Hindrance d r .baseline f
  | file {content : Bytes} {f : Failure} (hfile : d.file? r.id.val = some content)
      (h : readText content = .error f) : Hindrance d r .baseline f

open Capture (isRecoverable)

theorem isRecoverable_checkName {id : Text} {f : Failure} (h : checkName id = .error f) :
    isRecoverable f = true := by
  rw [checkName] at h
  split at h
  · cases h
  · cases h
    rfl

theorem isRecoverable_checkLength {id : Text} {f : Failure} (h : d.checkLength id = .error f) :
    isRecoverable f = true := by
  rw [checkLength] at h
  split at h
  · cases h
    rfl
  · cases h

theorem isRecoverable_check {site : Site} {name : Text} {f : Failure}
    (h : site.check name = .error f) : isRecoverable f = true := by
  rw [Site.check] at h
  split at h
  · cases h
    rfl
  · cases h

theorem isRecoverable_appendFault {site : Site} {f : Failure} {written : Option Nat}
    (h : site.appendFault? = some (f, written)) : isRecoverable f = true := by
  rw [Site.appendFault?] at h
  split at h
  · cases h
    rfl
  · obtain ⟨defect, -, hdefect⟩ := List.exists_of_findSome?_eq_some h
    split at hdefect
    · cases hdefect
      rfl
    · cases hdefect

theorem isRecoverable_create {id : Text} {content : Bytes} {f : Failure}
    (h : (d.create id content).outcome = .error f) : isRecoverable f = true := by
  unfold create at h
  split at h
  · next hlength => exact isRecoverable_checkLength (hlength.trans h)
  · cases h
    rfl
  · next hbroken =>
    cases h
    exact isRecoverable_appendFault hbroken
  · cases h

theorem isRecoverable_notBaseline {current : Data} {id : Text} {f : Failure}
    (h : notBaseline current id = .error f) : isRecoverable f = true := by
  unfold notBaseline at h
  split at h
  · split at h
    · cases h
      rfl
    · cases h
  · cases h

/-- A record without a text has no octets. -/
theorem documentOctets_of_document {f : Failure} (h : document r = .error f) :
    documentOctets r = .error f := by
  rw [documentOctets, h]
  rfl

theorem ensure_fails {f : Failure} (h : (d.ensure r).outcome = .error f) :
    isRecoverable f = true ∨ Hindrance d r .baseline f := by
  rcases Plan.outcome_after_eq_error h with hlength | ⟨_, -, h⟩
  · exact .inl (isRecoverable_checkLength hlength)
  rcases Plan.outcome_after_eq_error h with hplace | ⟨_, -, h⟩
  · exact .inl (isRecoverable_check hplace)
  split at h
  · next content hfile =>
    rcases Plan.outcome_after_eq_error h with hsame | ⟨_, -, h⟩
    · rcases bind_eq_error hsame with hfound | ⟨found, -, hsame⟩
      · exact .inr (.file hfile hfound)
      rcases bind_eq_error hsame with hdocument | ⟨t, -, hsame⟩
      · exact .inr (.octets (documentOctets_of_document hdocument))
      split at hsame
      · cases hsame
      · cases hsame
        exact .inl rfl
    · cases h
  · rcases Plan.outcome_after_eq_error h with hcontent | ⟨content, -, h⟩
    · exact .inr (.octets hcontent)
    · exact .inl (isRecoverable_create h)

/-- A put that fails does so with an error of the ledger or of the disk, or it is hindered. -/
theorem put_fails {f : Failure} (h : (d.put r s).outcome = .error f) :
    isRecoverable f = true ∨ Hindrance d r s f := by
  cases s with
  | history =>
    rcases Plan.outcome_after_eq_error h with hname | ⟨_, -, h⟩
    · exact .inl (isRecoverable_checkName hname)
    rcases Plan.outcome_after_eq_error h with hcontent | ⟨content, -, h⟩
    · exact .inr (.octets hcontent)
    rcases Plan.outcome_andThen_eq_error h with h | ⟨_, -, h⟩
    · exact .inl (isRecoverable_create h)
    · cases h
  | baseline =>
    rcases Plan.outcome_after_eq_error h with hpointed | ⟨current, -, h⟩
    · exact .inr (.pointer hpointed)
    rcases Plan.outcome_after_eq_error h with hcurrent | ⟨_, -, h⟩
    · exact .inl (isRecoverable_notBaseline hcurrent)
    rcases Plan.outcome_after_eq_error h with hname | ⟨_, -, h⟩
    · exact .inl (isRecoverable_checkName hname)
    rcases Plan.outcome_andThen_eq_error h with h | ⟨_, -, h⟩
    · exact ensure_fails h
    · cases h

end Directory

end ProofLedger
