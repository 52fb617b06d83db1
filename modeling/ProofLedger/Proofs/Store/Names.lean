import ProofLedger.Proofs.Json.CodePoints
import ProofLedger.Proofs.Json.Documents
import ProofLedger.Proofs.Json.Newlines
import ProofLedger.Store.Write

/-!
# Names in the files of a store

The index holds one name a line and the pointer is a document with one name. `IsExact` says
which names these files give back as they are: a letter or digit, then letters, digits, points,
underscores and dashes, and nothing behind them. `history_eq` and `pointed_eq` are the two
round trips.

A name with a line feed at its end may be stored too, but an index cannot tell it from the name
without: `history_bare` says that the line feed is lost there.
-/

namespace ProofLedger

namespace Identity

/-- A letter or digit, and then what names are made of, up to the very end. -/
def IsExact (id : Text) : Prop :=
  ∃ c r, id = c :: r ∧ Text.isWord c = true ∧
    ∀ x ∈ r, (isSlugPoint x || x == 45) = true

/-- What names are made of. -/
def isNamePoint (c : Nat) : Bool := isSlugPoint c || c == 45

theorem IsExact.point {id : Text} (h : IsExact id) : ∀ c ∈ id, isNamePoint c = true := by
  obtain ⟨c, r, rfl, hc, hr⟩ := h
  intro x hx
  rcases List.mem_cons.mp hx with rfl | hx
  · simp [isNamePoint, isSlugPoint, hc]
  · exact hr x hx

theorem IsExact.ne_nil {id : Text} (h : IsExact id) : id ≠ [] := by
  obtain ⟨c, r, rfl, -⟩ := h
  exact List.cons_ne_nil c r

/-- Names are made of visible ASCII. -/
theorem bounds_of_isNamePoint {c : Nat} (h : isNamePoint c = true) : 33 ≤ c ∧ c < 127 := by
  simp only [isNamePoint, isSlugPoint, Text.isWord, Text.isDigit, Text.isUpper, Text.isLower,
    Bool.or_eq_true, Bool.and_eq_true, decide_eq_true_eq, beq_iff_eq] at h
  omega

theorem IsExact.bounds {id : Text} (h : IsExact id) : ∀ c ∈ id, 33 ≤ c ∧ c < 127 :=
  fun c hc => bounds_of_isNamePoint (h.point c hc)

/-- The name without the one line feed that may stand at its end. -/
def bare (id : Text) : Text := if id.getLast? = some 10 then id.dropLast else id

theorem bare_cases (id : Text) : bare id = id ∨ id = bare id ++ [10] := by
  unfold bare
  split
  · next h =>
    obtain ⟨r, rfl⟩ := List.getLast?_eq_some_iff.mp h
    rw [List.dropLast_concat]
    exact .inr rfl
  · exact .inl rfl

/-- An exact name has no line feed to lose. -/
theorem IsExact.bare_eq {id : Text} (h : IsExact id) : bare id = id := by
  rw [bare, if_neg]
  intro hend
  have := h.bounds 10 (List.mem_of_getLast? hend)
  omega

/-- What may be stored is an exact name, with or without a line feed at its end. -/
theorem isStorable_iff {id : Text} : isStorable id = true ↔ IsExact (bare id) := by
  have hbare : (if id.getLast? = some 10 then id.dropLast else id) = bare id := rfl
  simp only [isStorable, hbare]
  cases bare id with
  | nil => exact iff_of_false Bool.false_ne_true fun h => h.ne_nil rfl
  | cons c r =>
    rw [Bool.and_eq_true_iff, List.all_eq_true]
    constructor
    · rintro ⟨hc, hr⟩
      exact ⟨c, r, rfl, hc, hr⟩
    · rintro ⟨c', r', hcons, hc, hr⟩
      cases hcons
      exact ⟨hc, hr⟩

/-- An exact name may be stored. -/
theorem IsExact.isStorable {id : Text} (h : IsExact id) : isStorable id = true := by
  rw [isStorable_iff, h.bare_eq]
  exact h

theorem IsExact.scalar {id : Text} (h : IsExact id) : id.Scalar := by
  refine Text.Utf8.scalar_of_lt fun c hc => ?_
  have hbounds := h.bounds c hc
  omega

end Identity

namespace Text

theorem stripBy_eq_self {p : Nat → Bool} {t : Text} (h : ∀ c ∈ t, p c = false) :
    stripBy p t = t := by
  have hdrop : ∀ {s : Text}, (∀ c ∈ s, p c = false) → s.dropWhile p = s := by
    intro s hs
    cases s with
    | nil => rfl
    | cons c r => rw [List.dropWhile_cons_of_neg (by simp [hs c List.mem_cons_self])]
  rw [stripBy, hdrop h, hdrop (fun c hc => h c (List.mem_reverse.mp hc)), List.reverse_reverse]

/-- A line without line ends in it is read up to its line feed. -/
theorem linesFrom_line {id : Text} (h : ∀ c ∈ id, isLineEnd c = false) (r : Text) :
    ∀ (begun : Bool) (current : Text),
      linesFrom (id ++ 10 :: r) begun current =
        (current.reverse ++ id) :: linesFrom r false [] := by
  induction id with
  | nil =>
    intro begun current
    rw [List.append_nil]
    simp [linesFrom, isLineEnd]
  | cons c id ih =>
    intro begun current
    have hc := h c List.mem_cons_self
    have hne : c ≠ 13 := by
      rintro rfl
      cases hc
    have hstep : linesFrom (c :: (id ++ 10 :: r)) begun current =
        linesFrom (id ++ 10 :: r) true (c :: current) := by
      rw [linesFrom]
      · rw [hc]
        rfl
      · exact fun _ hcr _ => hne hcr
    rw [List.cons_append, hstep, ih (fun x hx => h x (List.mem_cons_of_mem _ hx)),
      List.reverse_cons, List.append_assoc]
    rfl

end Text

/-- A store has room for its own documents, whatever room there is beside. -/
theorem Site.room_holds (s : Site) : s.room.Holds ProofRecord.depth := by
  rw [Site.room]
  cases s.spare with
  | none => trivial
  | some n => exact Nat.le_add_left _ n

namespace Directory

open Identity

/-! ## The index -/

/-- The text of an index. -/
def indexText (ids : List Text) : Text := ids.flatMap (· ++ [10])

theorem octets_append (s t : Text) : octets (s ++ t) = octets s ++ octets t :=
  List.flatMap_append

theorem octets_indexText (ids : List Text) : octets (indexText ids) = ids.flatMap indexLine := by
  induction ids with
  | nil => rfl
  | cons id ids ih =>
    rw [indexText, List.flatMap_cons, octets_append, List.flatMap_cons, ← ih]
    rfl

/-- An exact name on a line of its own is the first name of an index. -/
theorem namesOf_line {id : Text} (h : IsExact id) (t : Text) :
    namesOf (id ++ 10 :: t) = id :: namesOf t := by
  have hend : ∀ c ∈ id, Text.isLineEnd c = false := by
    intro c hc
    have hbounds := h.bounds c hc
    simp only [Text.isLineEnd, Bool.or_eq_false_iff, Bool.and_eq_false_iff,
      decide_eq_false_iff_not, beq_eq_false_iff_ne]
    omega
  have hblank : ∀ c ∈ id, Text.isBlank c = false := by
    intro c hc
    have hbounds := h.bounds c hc
    simp only [Text.isBlank, Text.isWhiteSpace, Bool.or_eq_false_iff, Bool.and_eq_false_iff,
      decide_eq_false_iff_not, beq_eq_false_iff_ne]
    omega
  have hlines : (id ++ 10 :: t).lines = id :: t.lines := Text.linesFrom_line hend t false []
  have hkept : (!id.isEmpty) = true := by
    rw [Bool.not_eq_true', List.isEmpty_eq_false_iff]
    exact h.ne_nil
  rw [namesOf, hlines, List.map_cons, Text.strip, Text.stripBy_eq_self hblank]
  exact List.filter_cons_of_pos hkept

/-- An empty line of an index is no name. -/
theorem namesOf_lineFeed (t : Text) : namesOf (10 :: t) = namesOf t := by
  have hlines : Text.lines (10 :: t) = [] :: t.lines := by simp [Text.lines, Text.linesFrom,
    Text.isLineEnd]
  rw [namesOf, hlines]
  rfl

/-- The names in an index are those that were written, but for line feeds at their ends. -/
theorem namesOf_indexText {ids : List Text} (h : ∀ id ∈ ids, isStorable id = true) :
    namesOf (indexText ids) = ids.map bare := by
  induction ids with
  | nil => rfl
  | cons id ids ih =>
    have hexact := isStorable_iff.mp (h id List.mem_cons_self)
    have hrest := ih fun x hx => h x (List.mem_cons_of_mem _ hx)
    have htext : indexText (id :: ids) = id ++ 10 :: indexText ids := by simp [indexText]
    rw [List.map_cons, htext, ← hrest]
    rcases bare_cases id with hsame | hended
    · rw [hsame] at hexact ⊢
      exact namesOf_line hexact _
    · -- the name brings a line feed of its own, which leaves an empty line
      generalize bare id = name at hexact hended ⊢
      rw [hended, List.append_assoc, List.singleton_append, namesOf_line hexact, namesOf_lineFeed]

/-- A text file without carriage returns is read as it was written. -/
theorem readText_octets {t : Text} (hscalar : t.Scalar) (h : 13 ∉ t) :
    readText (octets t) = .ok t := by
  have hread : Text.ofUtf8 (octets t) = .ok t := Text.Utf8.decode_of_scalar hscalar false
  simp only [readText, hread, Text.universalNewlines_eq_self h]

theorem readText_indexText {ids : List Text} (h : ∀ id ∈ ids, isStorable id = true) :
    readText (octets (indexText ids)) = .ok (indexText ids) := by
  have hname : ∀ id ∈ ids, ∀ c ∈ id, c = 10 ∨ 33 ≤ c ∧ c < 127 := by
    intro id hid c hc
    have hexact := isStorable_iff.mp (h id hid)
    rcases bare_cases id with hsame | hended
    · exact .inr ((hsame ▸ hexact).bounds c hc)
    · rw [hended] at hc
      rcases List.mem_append.mp hc with hc | hc
      · exact .inr (hexact.bounds c hc)
      · exact .inl (List.mem_singleton.mp hc)
  have hpoints : ∀ c ∈ indexText ids, c = 10 ∨ 33 ≤ c ∧ c < 127 := by
    intro c hc
    obtain ⟨id, hid, hc⟩ := List.mem_flatMap.mp hc
    rcases List.mem_append.mp hc with hc | hc
    · exact hname id hid c hc
    · exact .inl (List.mem_singleton.mp hc)
  refine readText_octets (Text.Utf8.scalar_of_lt fun c hc => ?_) fun h13 => ?_
  · have hbounds := hpoints c hc
    omega
  · have hbounds := hpoints 13 h13
    omega

/-! ## The pointer -/

/-- A pointer to a name is read as that name. -/
theorem pointed_eq {d : Directory} (hsite : d.site.check pointerName = .ok ()) {id : Text}
    (h : IsExact id) (hpointer : d.pointer = some (octets (pointerText id))) :
    d.pointed = .ok (.text id) := by
  have hfaithful : Json.Faithful (.dict [("record_id", .text id)]) := by
    simp [Json.Faithful, Json.FaithfulEntries]
  have hscalar : (pointerText id).Scalar := by
    refine Json.scalar_pretty ⟨?_, ?_, trivial⟩
    · exact fun c hc _ => (by decide : ∀ c ∈ ("record_id" : Text), Text.isScalar c = true) c hc
    · exact fun c hc _ => List.all_eq_true.mp h.scalar c hc
  have hread : readText (octets (pointerText id)) = .ok (pointerText id) :=
    readText_octets hscalar (Json.carriageReturn_not_mem_pretty _)
  have hroom : d.site.room.Holds (Json.dict [("record_id", .text id)]).depth :=
    d.site.room_holds.mono (by simp [Json.depth, Json.depthEntries, ProofRecord.depth])
  have hjson : Json.read (pointerText id) d.site.room = .ok (.dict [("record_id", .text id)]) :=
    Json.read_pretty hfaithful hroom
  rw [pointed, hsite, hpointer]
  simp only [bind, Except.bind, hread, hjson, mapError_ok]
  rfl

theorem pointed_none {d : Directory} (hsite : d.site.check pointerName = .ok ())
    (hpointer : d.pointer = none) : d.pointed = .ok .null := by
  rw [pointed, hsite, hpointer]
  rfl

/-- An index of names is read as those names without their line feeds; no index is one without
names. -/
theorem history_bare {d : Directory} (hsite : d.site.check indexName = .ok ()) {ids : List Text}
    (h : ∀ id ∈ ids, isStorable id = true) (hindex : d.index.getD [] = ids.flatMap indexLine) :
    d.history = .ok (ids.map bare) := by
  rw [← octets_indexText] at hindex
  rw [history, hsite]
  cases hcontent : d.index with
  | none =>
    rw [hcontent] at hindex
    cases ids with
    | nil => rfl
    | cons id ids =>
      have hne := Text.Utf8.encodePoint_ne_nil 10
      rw [Option.getD_none, indexText, List.flatMap_cons, octets_append, octets_append] at hindex
      simp [octets, Text.Utf8.encode, hne] at hindex
  | some content =>
    rw [hcontent, Option.getD_some] at hindex
    subst hindex
    simp only [bind, Except.bind, readText_indexText h]
    rw [Except.map, namesOf_indexText h]

/-- Exact names are read as they were written. -/
theorem history_eq {d : Directory} (hsite : d.site.check indexName = .ok ()) {ids : List Text}
    (h : ∀ id ∈ ids, IsExact id) (hindex : d.index.getD [] = ids.flatMap indexLine) :
    d.history = .ok ids := by
  have hbare : ids.map bare = ids := by
    rw [List.map_congr_left fun id hid => (h id hid).bare_eq, List.map_id']
  rw [history_bare hsite (fun id hid => (h id hid).isStorable) hindex, hbare]

end Directory

end ProofLedger
