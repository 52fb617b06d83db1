import ProofLedger.Json.Encoding
import ProofLedger.Proofs.Digest.Canonical
import ProofLedger.Proofs.Text.Numeral

/-!
# What the reader takes

The reader takes any text, and yet what it makes of it is bounded: `read_bounds` says that the
integers of a document that was read fit a numeral, and that the reader only complains of a long
numeral where the text has one, and of nesting where the text opens more than there is room for.
All come from one induction on the steps of the reader. Each step ends with something good and a
rest of the text, or it stops, and then for a reason that is in the text (`Reads`).
-/

namespace ProofLedger.Json

/-- More digits in a row than a numeral may have. -/
def HasLongRun (t : Text) : Prop :=
  ∃ ds, ds <:+: t ∧ (∀ c ∈ ds, Text.isDigit c = true) ∧ Number.maxDigits < ds.length

theorem HasLongRun.of_suffix {r t : Text} (h : HasLongRun r) (hr : r <:+ t) : HasLongRun t := by
  obtain ⟨ds, hds, hdigits, hlong⟩ := h
  exact ⟨ds, hds.trans hr.isInfix, hdigits, hlong⟩

/-- More lists and dictionaries are opened than there is room for within one another. -/
def Crowds (room : Room) (t : Text) : Prop := ∃ n, room = some n ∧ n < t.openings

theorem Crowds.of_suffix {room : Room} {r t : Text} (h : Crowds room r) (hr : r <:+ t) :
    Crowds room t := by
  obtain ⟨n, hn, hlt⟩ := h
  exact ⟨n, hn, Nat.lt_of_lt_of_le hlt (hr.sublist.countP_le)⟩

/-- The start of a list or a dictionary takes up one of the levels. -/
def Opens (c : Nat) : Prop := c = 91 ∨ c = 0x7B

theorem openings_cons {c : Nat} (hc : Opens c) (r : Text) :
    Text.openings (c :: r) = r.openings + 1 :=
  List.countP_cons_of_pos (by rcases hc with rfl | rfl <;> rfl)

theorem Crowds.cons {room inner : Room} {c : Nat} {r : Text} (h : Crowds inner r) (hc : Opens c)
    (henter : room.enter? = some inner) : Crowds room (c :: r) := by
  obtain ⟨n, rfl, hlt⟩ := h
  refine ⟨n + 1, ?_, by rw [openings_cons hc]; omega⟩
  unfold Room.enter? at henter
  split at henter
  · cases henter
  · cases henter
  · cases henter
    rfl

theorem crowds_of_enter {room : Room} {c : Nat} {r : Text} (hc : Opens c)
    (henter : room.enter? = none) : Crowds room (c :: r) := by
  unfold Room.enter? at henter
  split at henter
  · cases henter
  · exact ⟨0, rfl, by rw [openings_cons hc]; omega⟩
  · cases henter

/-- A long numeral is only complained of where there is one, and nesting where there is not room
for all that is opened. -/
def Stop.Due (room : Room) (t : Text) : Stop → Prop
  | .longInteger => HasLongRun t
  | .tooDeep => Crowds room t
  | .problem _ _ => True

theorem Stop.Due.of_suffix {room : Room} {r t : Text} {e : Stop} (h : e.Due room r)
    (hr : r <:+ t) : e.Due room t := by
  cases e with
  | problem what left => trivial
  | longInteger => exact HasLongRun.of_suffix h hr
  | tooDeep => exact Crowds.of_suffix h hr

/-- A step of the reader has read something good and left a rest of the text, or it has stopped
with cause. -/
def Reads {α : Type} (room : Room) (good : α → Prop) (t : Text) : Step α → Prop
  | .ok (a, r) => good a ∧ r <:+ t
  | .error e => e.Due room t

section Steps

variable {α : Type} {room inner : Room} {good : α → Prop} {r t : Text}

theorem Reads.of_suffix {s : Step α} (h : Reads room good r s) (hr : r <:+ t) :
    Reads room good t s := by
  rcases s with e | ⟨a, r'⟩
  · exact Stop.Due.of_suffix h hr
  · exact ⟨h.1, h.2.trans hr⟩

/-- What is read within a list or a dictionary is read of it. -/
theorem Reads.cons {s : Step α} (h : Reads inner good r s) {c : Nat} (hc : Opens c)
    (henter : room.enter? = some inner) : Reads room good (c :: r) s := by
  rcases s with e | ⟨a, r'⟩
  · cases e with
    | problem what left => trivial
    | longInteger => exact HasLongRun.of_suffix h (List.suffix_cons c r)
    | tooDeep => exact Crowds.cons h hc henter
  · exact ⟨h.1, h.2.trans (List.suffix_cons c r)⟩

theorem reads_problem {what : Problem} {left : Nat} :
    Reads room good t (.error (.problem what left)) := trivial

theorem skipBlanks_suffix (t : Text) : skipBlanks t <:+ t := List.dropWhile_suffix _

/-- A rest that starts with something has more behind it. -/
theorem suffix_of_skipBlanks {c : Nat} (h : skipBlanks t = c :: r) : r <:+ t :=
  (List.suffix_cons c r).trans (h ▸ skipBlanks_suffix t)

end Steps

/-! ## Strings -/

/-- Nothing is asked of what is read. -/
abbrev Anything {α : Type} (_ : α) : Prop := True

/-- The integers of what is read fit a numeral. -/
abbrev Fitting (j : Json) : Prop := j.fits = true

theorem readHex?_suffix {t r : Text} {v : Nat} (h : readHex? t = some (v, r)) : r <:+ t := by
  unfold readHex? at h
  split at h
  · next a b c d x rest =>
    obtain ⟨v', -, heq⟩ := Option.map_eq_some_iff.mp h
    cases heq
    exact List.suffix_append [a, b, c, d] (x :: rest)
  · cases h

theorem reads_lowHalf (room : Room) (high : Nat) (t : Text) :
    Reads room Anything t (readLowHalf high t) := by
  unfold readLowHalf
  split
  · next a b c d x r =>
    split
    · split
      · exact ⟨trivial, List.suffix_append [92, 117, a, b, c, d] (x :: r)⟩
      · exact ⟨trivial, List.suffix_rfl⟩
    · exact reads_problem
  · exact ⟨trivial, List.suffix_rfl⟩

theorem reads_escape (room : Room) (t : Text) : Reads room Anything t (readEscape t) := by
  unfold readEscape
  split
  · next r =>
    split
    · next v r' hhex =>
      have hr : r' <:+ 117 :: r := (readHex?_suffix hhex).trans (List.suffix_cons _ _)
      split
      · exact (reads_lowHalf room v r').of_suffix hr
      · exact ⟨trivial, hr⟩
    · exact reads_problem
  · split
    · exact ⟨trivial, List.suffix_cons _ _⟩
    · exact reads_problem
  · exact reads_problem

theorem reads_chars (room : Room) (whole : Text) (fuel : Nat) (done t : Text) :
    Reads room Anything t (readChars whole fuel done t) := by
  induction fuel generalizing done t with
  | zero => exact reads_problem
  | succ fuel ih =>
    unfold readChars
    split
    · exact reads_problem
    · next c r =>
      split
      · exact ⟨trivial, List.suffix_cons _ _⟩
      · split
        · split
          · exact reads_problem
          · have hescape := reads_escape room r
            split
            · next e he =>
              rw [he] at hescape
              exact hescape.of_suffix (List.suffix_cons c r)
            · next v r' hv =>
              rw [hv] at hescape
              exact (ih _ r').of_suffix (hescape.2.trans (List.suffix_cons c r))
        · split
          · exact reads_problem
          · exact (ih _ r).of_suffix (List.suffix_cons c r)

theorem reads_string (room : Room) (fuel : Nat) (t : Text) :
    Reads room Anything t (readString fuel t) :=
  reads_chars room t fuel [] t

/-! ## Numbers and names -/

/-- What is cut off are digits, and they stand at the front. -/
theorem eq_of_cutDigits {t ds r : Text} (h : Number.cutDigits t = (ds, r)) :
    ds ++ r = t ∧ ∀ c ∈ ds, Text.isDigit c = true := by
  cases h
  exact ⟨List.takeWhile_append_dropWhile, List.all_eq_true.mp List.all_takeWhile⟩

theorem suffix_of_cutDigits {t ds r : Text} (h : Number.cutDigits t = (ds, r)) : r <:+ t :=
  ⟨ds, (eq_of_cutDigits h).1⟩

theorem eq_of_cutWhole {t whole r : Text} (h : cutWhole t = some (whole, r)) :
    whole ++ r = t ∧ ∀ c ∈ whole, Text.isDigit c = true := by
  unfold cutWhole at h
  split at h
  · cases h
  · split at h
    · next hc =>
      cases h
      subst hc
      exact ⟨rfl, by decide⟩
    · split at h
      · exact eq_of_cutDigits (Option.some.inj h)
      · cases h

theorem cutFraction_suffix (t : Text) : (cutFraction t).2 <:+ t := by
  unfold cutFraction
  split
  · split
    · exact List.suffix_rfl
    · next hcut => exact (suffix_of_cutDigits hcut).trans (List.suffix_cons _ _)
  · exact List.suffix_rfl

theorem cutSign_suffix (t : Text) : (Number.cutSign t).2 <:+ t := by
  unfold Number.cutSign
  split
  · exact List.suffix_cons _ _
  · exact List.suffix_cons _ _
  · exact List.suffix_rfl

theorem cutExponent_suffix (t : Text) : (cutExponent t).2 <:+ t := by
  unfold cutExponent
  split
  · next c r =>
    split
    · have hbody := (cutSign_suffix r).trans (List.suffix_cons c r)
      split
      next hsign =>
      rw [hsign] at hbody
      split
      · exact List.suffix_rfl
      · next hcut => exact (suffix_of_cutDigits hcut).trans hbody
    · exact List.suffix_rfl
  · exact List.suffix_rfl

/-- An integer that is read has no more digits than a numeral may have. -/
theorem reads_number (room : Room) (t : Text) : Reads room Fitting t (readNumber t) := by
  unfold readNumber
  split
  next negative body hsign =>
  have hbody : body <:+ t := by
    split at hsign
    · cases hsign
      exact List.suffix_cons _ _
    · cases hsign
      exact List.suffix_rfl
  split
  · exact reads_problem
  · next whole r hwhole =>
    obtain ⟨hsplit, hdigits⟩ := eq_of_cutWhole hwhole
    have hr : r <:+ t := List.IsSuffix.trans ⟨whole, hsplit⟩ hbody
    have hfraction := (cutFraction_suffix r).trans hr
    split
    next fraction r₁ hcut =>
    rw [hcut] at hfraction
    have hexponent := (cutExponent_suffix r₁).trans hfraction
    split
    next exponent r₂ hcut =>
    rw [hcut] at hexponent
    split
    · split
      · next hlong =>
        have hinfix : whole <:+: t := List.IsInfix.trans ⟨[], r, hsplit⟩ hbody.isInfix
        exact ⟨whole, hinfix, hdigits, hlong⟩
      · next hshort =>
        have hlt : Text.natValue whole < 10 ^ Number.maxDigits :=
          Nat.lt_of_lt_of_le (Text.natValue_lt hdigits)
            (Nat.pow_le_pow_right (by decide) (Nat.le_of_not_lt hshort))
        refine ⟨?_, hexponent⟩
        show Number.fits _ = true
        rw [Number.fits, decide_eq_true_eq]
        split
        · rwa [Int.natAbs_neg, Int.natAbs_natCast]
        · rwa [Int.natAbs_natCast]
    · exact ⟨rfl, hexponent⟩

theorem reads_scalar (room : Room) (t : Text) : Reads room Fitting t (readScalar t) := by
  unfold readScalar
  split
  · next name j hfind =>
    have hmem := List.mem_of_find?_eq_some hfind
    have hfits : ∀ e ∈ named, e.2.fits = true := by decide
    exact ⟨hfits _ hmem, List.drop_suffix _ _⟩
  · exact reads_number room t

/-! ## Values -/

/-- An entry comes from the entries before or is the one that is set. -/
theorem mem_setEntry {α : Type} {es : List (Text × α)} {k : Text} {v : α} {e : Text × α}
    (h : e ∈ setEntry es k v) : e ∈ es ∨ e = (k, v) := by
  induction es with
  | nil => exact .inr (List.mem_singleton.mp h)
  | cons x es ih =>
    rw [setEntry] at h
    split at h
    · next hk =>
      rcases List.mem_cons.mp h with rfl | h
      · exact .inr (hk ▸ rfl)
      · exact .inl (List.mem_cons_of_mem _ h)
    · rcases List.mem_cons.mp h with rfl | h
      · exact .inl List.mem_cons_self
      · exact (ih h).imp_left (List.mem_cons_of_mem _)

section Values

variable {fuel : Nat} (hvalue : ∀ room t, Reads room Fitting t (readValue fuel room t))
include hvalue

theorem reads_items_succ
    (hitems : ∀ room done t, (∀ x ∈ done, Fitting x) →
      Reads room Fitting t (readItems fuel room done t))
    (room : Room) {done : List Json} (hdone : ∀ x ∈ done, Fitting x) (t : Text) :
    Reads room Fitting t (readItems (fuel + 1) room done t) := by
  unfold readItems
  have hv := hvalue room t
  split
  · next e he =>
    rw [he] at hv
    exact hv
  · next v r hr =>
    rw [hr] at hv
    have hmore : ∀ x ∈ v :: done, Fitting x := List.forall_mem_cons.mpr ⟨hv.1, hdone⟩
    split
    · next hclose =>
      refine ⟨fitsItems_iff.mpr fun x hx => hmore x (List.mem_reverse.mp hx), ?_⟩
      exact (suffix_of_skipBlanks hclose).trans hv.2
    · next r' hcomma =>
      refine (hitems room _ _ hmore).of_suffix ((skipBlanks_suffix r').trans ?_)
      exact (suffix_of_skipBlanks hcomma).trans hv.2
    · exact reads_problem

theorem reads_members_succ
    (hmembers : ∀ room done t, (∀ e ∈ done, Fitting e.2) →
      Reads room Fitting t (readMembers fuel room done t))
    (room : Room) {done : List (Text × Json)} (hdone : ∀ e ∈ done, Fitting e.2) (t : Text) :
    Reads room Fitting t (readMembers (fuel + 1) room done t) := by
  unfold readMembers
  split
  · next r =>
    have hk := (reads_string room (fuel + 1) r).of_suffix (List.suffix_cons 34 r)
    split
    · next e he =>
      rw [he] at hk
      exact hk
    · next k r₁ hkey =>
      rw [hkey] at hk
      split
      · next r₂ hcolon =>
        have hr₂ : skipBlanks r₂ <:+ 34 :: r :=
          (skipBlanks_suffix r₂).trans ((suffix_of_skipBlanks hcolon).trans hk.2)
        have hv := (hvalue room (skipBlanks r₂)).of_suffix hr₂
        split
        · next e he =>
          rw [he] at hv
          exact hv
        · next v r₃ hread =>
          rw [hread] at hv
          have hmore : ∀ e ∈ setEntry done k v, Fitting e.2 := by
            intro e he
            rcases mem_setEntry he with he | rfl
            · exact hdone e he
            · exact hv.1
          split
          · next hclose =>
            exact ⟨fitsEntries_iff.mpr hmore, (suffix_of_skipBlanks hclose).trans hv.2⟩
          · next r₄ hcomma =>
            refine (hmembers room _ _ hmore).of_suffix ((skipBlanks_suffix r₄).trans ?_)
            exact (suffix_of_skipBlanks hcomma).trans hv.2
          · exact reads_problem
      · exact reads_problem
  · exact reads_problem

end Values

/-- The three readers of values, with one step more. -/
theorem reads_values (fuel : Nat) :
    (∀ room t, Reads room Fitting t (readValue fuel room t)) ∧
      (∀ room done t, (∀ x ∈ done, Fitting x) →
        Reads room Fitting t (readItems fuel room done t)) ∧
      ∀ room done t, (∀ e ∈ done, Fitting e.2) →
        Reads room Fitting t (readMembers fuel room done t) := by
  induction fuel with
  | zero =>
    exact ⟨fun _ _ => reads_problem, fun _ _ _ _ => reads_problem, fun _ _ _ _ => reads_problem⟩
  | succ fuel ih =>
    obtain ⟨hvalue, hitems, hmembers⟩ := ih
    refine ⟨fun room t => ?_,
      fun room done t hdone => reads_items_succ hvalue hitems room hdone t,
      fun room done t hdone => reads_members_succ hvalue hmembers room hdone t⟩
    unfold readValue
    split
    · next r =>
      have hs := (reads_string room (fuel + 1) r).of_suffix (List.suffix_cons 34 r)
      rcases hread : readString (fuel + 1) r with e | s
      · rw [hread] at hs
        exact hs
      · rw [hread] at hs
        exact ⟨rfl, hs.2⟩
    · next r =>
      split
      · next henter => exact crowds_of_enter (.inr rfl) henter
      · next hclose => exact ⟨rfl, (suffix_of_skipBlanks hclose).trans (List.suffix_cons _ _)⟩
      · next inner henter _ =>
        exact ((hmembers inner [] _ (List.forall_mem_nil _)).of_suffix (skipBlanks_suffix r)).cons
          (.inr rfl) henter
    · next r =>
      split
      · next henter => exact crowds_of_enter (.inl rfl) henter
      · next hclose => exact ⟨rfl, (suffix_of_skipBlanks hclose).trans (List.suffix_cons _ _)⟩
      · next inner henter _ =>
        exact ((hitems inner [] _ (List.forall_mem_nil _)).of_suffix (skipBlanks_suffix r)).cons
          (.inl rfl) henter
    · exact reads_scalar room t

/-! ## Documents -/

/-- What a text is refused for, besides problems that have a place in it, is in the text. -/
structure Bounds (room : Room) (t : Text) (result : Except ReadFault Json) : Prop where
  fits : ∀ j, result = .ok j → j.fits = true
  long : result = .error .longInteger → HasLongRun t
  deep : result = .error .tooDeep → Crowds room t

theorem readWhole_bounds (t : Text) (room : Room) : Bounds room t (readWhole t room) := by
  have hvalue := ((reads_values (2 * t.length + 2)).1 room (skipBlanks t)).of_suffix
    (skipBlanks_suffix t)
  unfold readWhole
  rcases hread : readValue (2 * t.length + 2) room (skipBlanks t) with e | ⟨j, r⟩
  · rw [hread] at hvalue
    cases e with
    | problem what left => exact ⟨nofun, nofun, nofun⟩
    | longInteger => exact ⟨nofun, fun _ => hvalue, nofun⟩
    | tooDeep => exact ⟨nofun, nofun, fun _ => hvalue⟩
  · rw [hread] at hvalue
    dsimp only
    split
    · refine ⟨fun j' h => ?_, nofun, nofun⟩
      cases h
      exact hvalue.1
    · exact ⟨nofun, nofun, nofun⟩

theorem read_bounds (t : Text) (room : Room) : Bounds room t (read t room) := by
  unfold read
  split
  · exact ⟨nofun, nofun, nofun⟩
  · exact readWhole_bounds t room

/-- The text of octets, in the encoding that they seem to have. -/
def decode? (b : Bytes) : Option Text := (Encoding.detect b).1.decode? (Encoding.detect b).2

theorem readBytes_eq (b : Bytes) (room : Room) : readBytes b room =
    match decode? b with
    | none => .error .undecodable
    | some t => (readWhole t room).mapError .read := rfl

end ProofLedger.Json
