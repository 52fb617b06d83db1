import ProofLedger.Proofs.Calendar.Order
import ProofLedger.Proofs.Record.RoundTrip

/-!
# The times of records

`exists_tells`: every moment that UTC reaches has a text which a record takes, which is read as the
same instant on a clock that shows UTC, and which that clock writes again. Between two such moments
the texts are in the order of time, whatever the clocks that showed them; so sorting records by
their texts sorts them by their instants.
-/

namespace ProofLedger

namespace Timestamp

/-- What a record holds for a moment: the text that the moment has, read as the same instant. -/
structure Tells (ts : Timestamp) (m : Moment) : Prop where
  written : m.format = .ok ts.text
  read : Moment.parse? ts.text = some ts.moment
  offset_eq : ts.moment.offset = some 0
  instant_eq : ts.moment.instant = m.instant
  rewritten : ts.moment.format = .ok ts.text
  /-- Any record that is given the text takes it. -/
  taken : ∀ r : ProofRecord, ProofRecord.buildWith r.input r.objects
    { r with timestamp := ts }.checkedFields = .ok { r with timestamp := ts }

/-- The time of a record from a moment in UTC. -/
def ofUtc (u : Moment) (hu : u.offset = some 0) : Timestamp :=
  ⟨u.fullText, u, Moment.parse?_fullText hu, by rw [Moment.isAware, hu]; rfl⟩

theorem ofUtc_tells {m u : Moment} (hm : m.isAware = true) (hutc : m.utc? = some u) :
    (ofUtc u (Moment.instant_of_utc? hutc).1).Tells m where
  written := Moment.format_eq hm hutc
  read := Timestamp.parsed _
  offset_eq := (Moment.instant_of_utc? hutc).1
  instant_eq := (Moment.instant_of_utc? hutc).2
  rewritten := by
    obtain ⟨hoffset, -⟩ := Moment.instant_of_utc? hutc
    have hself : u.utc? = some u := by
      rw [Moment.utc?, Moment.instant_eq_wall hoffset, ← hoffset]
      exact Moment.make?_wall u
    exact Moment.format_eq (Moment.Placed.of_utc hoffset).aware hself
  taken r := ProofRecord.buildWith_checkedFields { r with timestamp := _ }

end Timestamp

namespace Moment

/-- Moments that UTC reaches keep their instants in the texts of records, and these texts are in
the order of the instants. -/
theorem exists_tells {m n : Moment} (hm : m.Placed) (hn : n.Placed) :
    ∃ ts us : Timestamp, ts.Tells m ∧ us.Tells n ∧
      (ts.text < us.text ↔ m.instant < n.instant) := by
  obtain ⟨u, hu, hutc, hwall⟩ := hm.exists_utc
  obtain ⟨v, hv, hvtc, hwall'⟩ := hn.exists_utc
  refine ⟨_, _, Timestamp.ofUtc_tells hm.aware hu, Timestamp.ofUtc_tells hn.aware hv, ?_⟩
  have hinstants : m.instant < n.instant ↔ u.wall < v.wall := by
    rw [← hwall, ← hwall', Int.ofNat_lt]
  exact (fullText_lt_iff hutc hvtc).trans hinstants.symm

/-- The last microsecond of a leap day on a clock that runs behind by one microsecond, and the
first day of all on a clock that runs ahead by most of a day. -/
theorem exists_tells_leapDay :
    ∃ m n : Moment, m.offset = some (-1) ∧ n.offset = some 86399999999 ∧
      ∃ ts us : Timestamp, ts.Tells m ∧ us.Tells n ∧
        (ts.text < us.text ↔ m.instant < n.instant) :=
  ⟨⟨63087465599999999, some (-1), by decide, by decide⟩,
    ⟨86400000000, some 86399999999, by decide, by decide⟩, rfl, rfl,
    exists_tells ⟨rfl, by decide, by decide⟩ ⟨rfl, by decide, by decide⟩⟩

end Moment

end ProofLedger
