import ProofLedger.Proofs.Calendar.Order
import ProofLedger.Proofs.Calendar.Stamps
import ProofLedger.Proofs.Run.Derived

/-!
# Names from labels and moments

`exists_derive`: a name that is derived from a label and a moment is one that stores take and that
an index gives back (`Kept`), and two such names are the same only where they must be: when the
labels have one slug and the moments are one instant.

Slugs may hold dashes, and digits that look like a stamp, so a name does not show at its front where
the slug ends. It is the last dash that does (`derive_eq_iff`).
-/

namespace ProofLedger.Identity

open Directory

/-- Stamps show what a clock shows, and not its distance from UTC. -/
theorem stampText_eq_iff {u v : Moment} : u.stampText = v.stampText ↔ u.wall = v.wall := by
  refine ⟨Moment.stampText_inj, fun h => ?_⟩
  simp only [Moment.stampText, Moment.date, Moment.sinceMidnight, h]

/-- Two names are one when the slugs are and the stamps are. -/
theorem derive_eq_iff {label label' : Text} {u v : Moment} :
    slug label ++ 45 :: u.stampText = slug label' ++ 45 :: v.stampText ↔
      slug label = slug label' ∧ u.wall = v.wall := by
  constructor
  · intro h
    have hwall := derive_inj h
    rw [stampText_eq_iff.mpr hwall] at h
    exact ⟨List.append_cancel_right h, hwall⟩
  · rintro ⟨hslug, hwall⟩
    rw [hslug, stampText_eq_iff.mpr hwall]

/-- Names that a store takes, and that its index gives back as they are wherever they stand. -/
structure Kept (id : Text) : Prop where
  /-- A letter or digit, then letters, digits, points, underscores and dashes to the very end. -/
  exact : IsExact id
  taken : checkName id = .ok ()
  listed : ∀ (d : Directory) (before after : List Text), d.site.check indexName = .ok () →
    (∀ n ∈ before ++ after, isStorable n = true) →
    d.index = some ((before ++ id :: after).flatMap indexLine) →
    d.history = .ok (before.map bare ++ id :: after.map bare)

theorem IsExact.kept {id : Text} (h : IsExact id) : Kept id where
  exact := h
  taken := if_pos h.isStorable
  listed d before after hsite hothers hindex := by
    have hall : ∀ n ∈ before ++ id :: after, Identity.isStorable n = true := by
      intro n hn
      rcases List.mem_append.mp hn with hn | hn
      · exact hothers n (List.mem_append_left _ hn)
      · rcases List.mem_cons.mp hn with rfl | hn
        · exact h.isStorable
        · exact hothers n (List.mem_append_right _ hn)
    rw [history_bare hsite hall (by rw [hindex, Option.getD_some]), List.map_append, List.map_cons,
      h.bare_eq]

/-- A label and a moment that UTC reaches give a name that is kept; another label and another such
moment give the same name when, and only when, the labels have one slug and the moments are one
instant, whatever the clocks that show it. -/
theorem exists_derive (label label' : Text) {m n : Moment} (hm : m.Placed) (hn : n.Placed) :
    ∃ id id', derive label m = .ok id ∧ derive label' n = .ok id' ∧ Kept id ∧ Kept id' ∧
      (id = id' ↔ slug label = slug label' ∧ m.instant = n.instant) := by
  obtain ⟨u, hu, -, hwall⟩ := hm.exists_utc
  obtain ⟨v, hv, -, hwall'⟩ := hn.exists_utc
  have hid : derive label m = .ok (slug label ++ 45 :: u.stampText) := derive_eq hm.aware hu
  have hid' : derive label' n = .ok (slug label' ++ 45 :: v.stampText) := derive_eq hn.aware hv
  have hinstants : m.instant = n.instant ↔ u.wall = v.wall := by
    rw [← hwall, ← hwall', Int.ofNat_inj]
  refine ⟨_, _, hid, hid', (derive_exact hid).kept, (derive_exact hid').kept, ?_⟩
  rw [hinstants]
  exact derive_eq_iff

/-- A moment of the year 999 on a clock that is an hour ahead. -/
def early : Moment := ⟨31518230400000000, some 3600000000, by decide, by decide⟩

/-- The same instant on a clock that is an hour behind. -/
def earlyBehind : Moment := ⟨31518223200000000, some (-3600000000), by decide, by decide⟩

/-- Two labels with one slug give one name there. -/
theorem exists_derive_early :
    ∃ id, derive "fast/tip5" early = .ok id ∧ derive "-fast  tip5_" earlyBehind = .ok id ∧
      Kept id := by
  obtain ⟨id, id', hid, hid', hkept, -, hsame⟩ :=
    exists_derive "fast/tip5" "-fast  tip5_" (m := early) (n := earlyBehind)
      ⟨rfl, by decide, by decide⟩ ⟨rfl, by decide, by decide⟩
  obtain rfl := hsame.mpr ⟨by decide, by decide⟩
  exact ⟨id, hid, hid', hkept⟩

end ProofLedger.Identity
