import ProofLedger.Proofs.Json.Scalar

/-!
# Written documents read back

`read_pretty` and `read_compact`: a document that is `Faithful` is read back from either of
its layouts. Faithful means what a document needs so that nothing is lost in writing it:
integers fit a numeral, doubles have digits, and no dictionary has a key twice.

The two layouts differ in blanks only. `write` is a printer with the blanks as a parameter
(`Gaps`); `write_inLines` and `write_flat` say that the two layouts are instances of it. The
reader is run once, over every text that `Spells` a document, whatever blanks stand between its
tokens. It counts its steps, and twice the length of what is read is enough; that bound is
carried through the induction on the spelling, and so is the room for the `depth` of what is read.
-/

namespace ProofLedger.Json

/-! ## What is not lost in writing -/

mutual

/-- Nothing of the document is lost when it is written. -/
def Faithful : Json → Prop
  | .null | .bool _ | .text _ => True
  | .int n => Number.fits n = true
  | .double d => d.isFinite = true
  | .list xs => FaithfulItems xs
  | .dict es => (es.map Prod.fst).Nodup ∧ FaithfulEntries es

def FaithfulItems : List Json → Prop
  | [] => True
  | x :: xs => Faithful x ∧ FaithfulItems xs

def FaithfulEntries : List (Text × Json) → Prop
  | [] => True
  | (_, v) :: es => Faithful v ∧ FaithfulEntries es

end

/-! ## Room -/

mutual

/-- How many lists and dictionaries of the document lie within one another. -/
def depth : Json → Nat
  | .null | .bool _ | .int _ | .double _ | .text _ => 0
  | .list xs => depthItems xs + 1
  | .dict es => depthEntries es + 1

def depthItems : List Json → Nat
  | [] => 0
  | x :: xs => max (depth x) (depthItems xs)

def depthEntries : List (Text × Json) → Nat
  | [] => 0
  | (_, v) :: es => max (depth v) (depthEntries es)

end

namespace Room

/-- There is room for so many levels. -/
def Holds : Room → Nat → Prop
  | none, _ => True
  | some n, k => k ≤ n

variable {room : Room} {k l : Nat}

/-- Without a bound there is room for everything. -/
theorem holds_none (k : Nat) : Holds none k := trivial

theorem Holds.mono (h : room.Holds l) (hk : k ≤ l) : room.Holds k := by
  cases room with
  | none => trivial
  | some n => exact Nat.le_trans hk h

theorem Holds.left (h : room.Holds (max k l)) : room.Holds k := h.mono (Nat.le_max_left k l)

theorem Holds.right (h : room.Holds (max k l)) : room.Holds l := h.mono (Nat.le_max_right k l)

/-- Room for a level more is room to enter it. -/
theorem Holds.exists_enter (h : room.Holds (k + 1)) :
    ∃ inner : Room, room.enter? = some inner ∧ inner.Holds k := by
  cases room with
  | none => exact ⟨none, rfl, trivial⟩
  | some n =>
    cases n with
    | zero => exact absurd h (Nat.not_succ_le_zero k)
    | succ n => exact ⟨some n, rfl, Nat.le_of_succ_le_succ h⟩

end Room

/-! ## One printer for both layouts -/

/-- The blanks of a layout: those in front of an item of a level, and those behind a colon. -/
structure Gaps where
  item : Nat → Text
  colon : Text

/-- The blanks are code points of a kind. -/
structure Gaps.Within (g : Gaps) (P : Nat → Prop) : Prop where
  item : ∀ level, ∀ c ∈ g.item level, P c
  colon : ∀ c ∈ g.colon, P c

/-- The blanks are blanks. -/
abbrev Gaps.Blank (g : Gaps) : Prop := g.Within fun c => isBlank c = true

/-- No blanks at all. -/
def flat : Gaps := ⟨fun _ => [], []⟩

/-- An item a line. -/
def inLines : Gaps := ⟨newline, [32]⟩

theorem flat_blank : flat.Blank := by
  refine ⟨fun level c hc => ?_, fun c hc => ?_⟩
  · cases hc
  · cases hc

theorem inLines_within {P : Nat → Prop} (hline : P 10) (hblank : P 32) : inLines.Within P := by
  refine ⟨fun level c hc => ?_, fun c hc => ?_⟩
  · rcases List.mem_cons.mp hc with rfl | hc
    · exact hline
    · exact (List.mem_replicate.mp hc).2 ▸ hblank
  · exact List.mem_singleton.mp hc ▸ hblank

theorem inLines_blank : inLines.Blank := inLines_within rfl rfl

mutual

/-- A document with the given blanks. -/
def write (g : Gaps) (level : Nat) : Json → Text
  | .null => "null"
  | .bool true => "true"
  | .bool false => "false"
  | .int n => .ofInt n
  | .double d => doubleText d
  | .text t => string t
  | .list [] => [91, 93]
  | .list (x :: xs) =>
    91 :: (g.item (level + 1) ++ (write g (level + 1) x ++ writeItems g level xs))
  | .dict [] => [0x7B, 0x7D]
  | .dict ((k, v) :: es) =>
    0x7B :: (g.item (level + 1) ++
      (string k ++ 58 :: (g.colon ++ (write g (level + 1) v ++ writeEntries g level es))))

/-- What follows an item of a list. -/
def writeItems (g : Gaps) (level : Nat) : List Json → Text
  | [] => g.item level ++ [93]
  | x :: xs => 44 :: (g.item (level + 1) ++ (write g (level + 1) x ++ writeItems g level xs))

/-- What follows an entry of a dictionary. -/
def writeEntries (g : Gaps) (level : Nat) : List (Text × Json) → Text
  | [] => g.item level ++ [0x7D]
  | (k, v) :: es =>
    44 :: (g.item (level + 1) ++
      (string k ++ 58 :: (g.colon ++ (write g (level + 1) v ++ writeEntries g level es))))

end

mutual

theorem write_flat (level : Nat) : ∀ j : Json, write flat level j = compact j
  | .null | .bool true | .bool false | .int _ | .double _ | .text _ => rfl
  | .list [] | .dict [] => rfl
  | .list (x :: xs) => by
    have hitem := write_flat (level + 1) x
    have hitems := writeItems_flat level (compact x) xs
    simp only [write, compact, compactItems, hitem, ← hitems]
    rfl
  | .dict ((k, v) :: es) => by
    have hvalue := write_flat (level + 1) v
    have hentries := writeEntries_flat level (string k ++ 58 :: compact v) es
    simp only [write, compact, compactEntries, hvalue, ← hentries, List.append_assoc,
      List.cons_append]
    rfl

theorem writeItems_flat (level : Nat) (t : Text) :
    ∀ xs : List Json, t ++ writeItems flat level xs = commas (t :: compactItems xs) ++ [93]
  | [] => rfl
  | x :: xs => by
    have hitem := write_flat (level + 1) x
    have hitems := writeItems_flat level (compact x) xs
    simp only [writeItems, compactItems, commas, hitem, List.append_assoc, List.cons_append,
      ← hitems]
    rfl

theorem writeEntries_flat (level : Nat) (t : Text) :
    ∀ es : List (Text × Json),
      t ++ writeEntries flat level es = commas (t :: compactEntries es) ++ [0x7D]
  | [] => rfl
  | (k, v) :: es => by
    have hvalue := write_flat (level + 1) v
    have hentries := writeEntries_flat level (string k ++ 58 :: compact v) es
    simp only [writeEntries, compactEntries, commas, hvalue, List.append_assoc, List.cons_append,
      ← hentries]
    rfl

end

mutual

theorem write_inLines (level : Nat) : ∀ j : Json, write inLines level j = prettyAt level j
  | .null | .bool true | .bool false | .int _ | .double _ | .text _ => rfl
  | .list [] | .dict [] => rfl
  | .list (x :: xs) => by
    have hitem := write_inLines (level + 1) x
    have hitems := writeItems_inLines level (newline (level + 1) ++ prettyAt (level + 1) x) xs
    simp only [write, prettyAt, prettyItems, block, List.map_cons, hitem, ← hitems,
      List.append_assoc]
    rfl
  | .dict ((k, v) :: es) => by
    have hvalue := write_inLines (level + 1) v
    have hentries := writeEntries_inLines level
      (newline (level + 1) ++ (string k ++ 58 :: 32 :: prettyAt (level + 1) v)) es
    simp only [write, prettyAt, prettyEntries, block, List.map_cons, hvalue, ← hentries,
      List.append_assoc, List.cons_append]
    rfl

theorem writeItems_inLines (level : Nat) (t : Text) :
    ∀ xs : List Json, t ++ writeItems inLines level xs =
      commas (t :: (prettyItems (level + 1) xs).map (newline (level + 1) ++ ·)) ++
        newline level ++ [93]
  | [] => by simp [writeItems, prettyItems, commas, inLines]
  | x :: xs => by
    have hitem := write_inLines (level + 1) x
    have hitems := writeItems_inLines level (newline (level + 1) ++ prettyAt (level + 1) x) xs
    simp only [writeItems, prettyItems, List.map_cons, commas, hitem, List.append_assoc,
      List.cons_append] at hitems ⊢
    rw [← hitems]
    rfl

theorem writeEntries_inLines (level : Nat) (t : Text) :
    ∀ es : List (Text × Json), t ++ writeEntries inLines level es =
      commas (t :: (prettyEntries (level + 1) es).map (newline (level + 1) ++ ·)) ++
        newline level ++ [0x7D]
  | [] => by simp [writeEntries, prettyEntries, commas, inLines]
  | (k, v) :: es => by
    have hvalue := write_inLines (level + 1) v
    have hentries := writeEntries_inLines level
      (newline (level + 1) ++ (string k ++ 58 :: 32 :: prettyAt (level + 1) v)) es
    simp only [writeEntries, prettyEntries, List.map_cons, commas, hvalue, List.append_assoc,
      List.cons_append] at hentries ⊢
    rw [← hentries]
    rfl

end

/-! ## Blanks -/

theorem skipBlanks_append {b t : Text} (hb : ∀ c ∈ b, isBlank c = true)
    (ht : ∀ c ∈ t.head?, isBlank c = false) : skipBlanks (b ++ t) = t := by
  rw [skipBlanks, List.dropWhile_append_of_pos hb]
  cases t with
  | nil => rfl
  | cons c r =>
    have hc : isBlank c = false := ht c rfl
    simp [hc]

/-- Blanks and then a mark end a number. -/
theorem endsNumber_gap {b r : Text} {c : Nat} (hb : ∀ x ∈ b, isBlank x = true)
    (hc : c = 44 ∨ c = 93 ∨ c = 0x7D) : EndsNumber (b ++ c :: r) := by
  cases b with
  | nil =>
    refine endsNumber_cons ?_
    rcases hc with rfl | rfl | rfl <;> decide
  | cons x b =>
    refine endsNumber_cons ?_
    have hx := hb x List.mem_cons_self
    simp only [isBlank, Bool.or_eq_true, beq_iff_eq] at hx
    rcases hx with ((rfl | rfl) | rfl) | rfl <;> decide

/-! ## Where a value starts -/

/-- A code point that a value may start with: no blank, no closing mark and no byte order
mark. -/
def StartsValue (c : Nat) : Prop := isBlank c = false ∧ c ≠ 93 ∧ c ≠ 0x7D ∧ c ≠ 0xFEFF

instance (c : Nat) : Decidable (StartsValue c) := inferInstanceAs (Decidable (_ ∧ _))

theorem startsValue_of_isDigit {c : Nat} (h : Text.isDigit c = true) : StartsValue c := by
  simp only [Text.isDigit, Bool.and_eq_true, decide_eq_true_eq] at h
  simp only [StartsValue, isBlank, Bool.or_eq_false_iff, beq_eq_false_iff_ne, ne_eq]
  omega

/-- A number starts with a digit, or with a minus sign and a digit. -/
theorem head_of_readNumber {t : Text} {p : Json × Text} (h : readNumber t = .ok p) :
    ∃ c r, Text.isDigit c = true ∧ (t = c :: r ∨ t = 45 :: c :: r) := by
  have hwhole : ∀ {body : Text} {q}, cutWhole body = some q →
      ∃ c r, Text.isDigit c = true ∧ body = c :: r := by
    intro body q hq
    cases body with
    | nil => cases hq
    | cons c r =>
      refine ⟨c, r, ?_, rfl⟩
      simp only [cutWhole] at hq
      split at hq
      · next hc => rw [hc]; rfl
      · split at hq
        · assumption
        · cases hq
  unfold readNumber at h
  simp only at h
  split at h
  · cases h
  · next w r hw =>
    obtain ⟨c, r, hc, hbody⟩ := hwhole hw
    split at hbody
    · next body =>
      have hbody : body = c :: r := hbody
      exact ⟨c, r, hc, .inr (by rw [hbody])⟩
    · exact ⟨c, r, hc, .inl hbody⟩

/-- What reads as a number is none of the names. -/
theorem readScalar_of_readNumber {t : Text} {p : Json × Text} (h : readNumber t = .ok p) :
    readScalar t = .ok p := by
  obtain ⟨c, r, hc, ht⟩ := head_of_readNumber h
  have hnames : named.find? (fun e => e.1.isPrefixOf t) = none := by
    simp only [Text.isDigit, Bool.and_eq_true, decide_eq_true_eq] at hc
    rw [List.find?_eq_none]
    intro e he hprefix
    have hfirst : ∃ a b, e.1 = a :: b ∧ (a = 45 ∧ b.head? = some 73 ∨ 57 < a) := by
      simp only [named, List.mem_cons, List.not_mem_nil, or_false] at he
      rcases he with rfl | rfl | rfl | rfl | rfl | rfl
      · exact ⟨_, _, rfl, by decide⟩
      · exact ⟨_, _, rfl, by decide⟩
      · exact ⟨_, _, rfl, by decide⟩
      · exact ⟨_, _, rfl, by decide⟩
      · exact ⟨_, _, rfl, by decide⟩
      · exact ⟨_, _, rfl, by decide⟩
    obtain ⟨a, b, hab, hfirst⟩ := hfirst
    obtain ⟨s, hs⟩ := List.isPrefixOf_iff_prefix.mp hprefix
    rw [hab] at hs
    rcases ht with rfl | rfl
    · obtain ⟨rfl, -⟩ := List.cons.inj hs
      omega
    · obtain ⟨rfl, hb⟩ := List.cons.inj hs
      cases b with
      | nil => simp at hfirst
      | cons x b =>
        obtain ⟨rfl, -⟩ := List.cons.inj hb
        simp at hfirst
        omega
  rw [readScalar, hnames]
  exact h

/-- What reads as a number is read as a value. -/
theorem readValue_of_readNumber (fuel : Nat) (room : Room) {t : Text} {p : Json × Text}
    (h : readNumber t = .ok p) : readValue (fuel + 1) room t = .ok p := by
  obtain ⟨c, r, hc, ht⟩ := head_of_readNumber h
  simp only [Text.isDigit, Bool.and_eq_true, decide_eq_true_eq] at hc
  have hfirst : ∀ {x : Nat} {s : Text}, t = x :: s → 45 ≤ x ∧ x ≤ 57 := by
    intro x s hx
    rcases ht with rfl | rfl
    · have hx := (List.cons.inj hx).1
      omega
    · have hx := (List.cons.inj hx).1
      omega
  unfold readValue
  split
  · exact absurd (hfirst rfl) (by decide)
  · exact absurd (hfirst rfl) (by decide)
  · exact absurd (hfirst rfl) (by decide)
  · exact readScalar_of_readNumber h

theorem readNumber_doubleText {d : Double} (hd : d.isFinite = true) {rest : Text}
    (hrest : EndsNumber rest) : readNumber (doubleText d ++ rest) = .ok (.double d, rest) := by
  rw [doubleText, if_pos hd]
  exact readNumber_plain hd hrest

/-! ## Every way to write a document -/

/-- Only blanks. -/
abbrev Blanks (b : Text) : Prop := ∀ c ∈ b, isBlank c = true

mutual

/-- The text spells the document: its tokens stand in it in order, with any blanks between
them. -/
inductive Spells : Json → Text → Prop
  | null : Spells .null "null"
  | bool (b : Bool) : Spells (.bool b) (compact (.bool b))
  | int (n : Int) : Spells (.int n) (.ofInt n)
  | double (d : Double) : Spells (.double d) (doubleText d)
  | text (t : Text) : Spells (.text t) (string t)
  | noItems : Spells (.list []) [91, 93]
  | items {x : Json} {xs : List Json} {b s r : Text} (blanks : Blanks b) (item : Spells x s)
      (rest : SpellsItems xs r) : Spells (.list (x :: xs)) (91 :: (b ++ (s ++ r)))
  | noEntries : Spells (.dict []) [0x7B, 0x7D]
  | entries {k : Text} {v : Json} {es : List (Text × Json)} {b c s r : Text} (blanks : Blanks b)
      (gap : Blanks c) (value : Spells v s) (rest : SpellsEntries es r) :
      Spells (.dict ((k, v) :: es)) (0x7B :: (b ++ (string k ++ 58 :: (c ++ (s ++ r)))))

/-- The text spells what follows an item of a list. -/
inductive SpellsItems : List Json → Text → Prop
  | nil {b : Text} (blanks : Blanks b) : SpellsItems [] (b ++ [93])
  | cons {x : Json} {xs : List Json} {b s r : Text} (blanks : Blanks b) (item : Spells x s)
      (rest : SpellsItems xs r) : SpellsItems (x :: xs) (44 :: (b ++ (s ++ r)))

/-- The text spells what follows an entry of a dictionary. -/
inductive SpellsEntries : List (Text × Json) → Text → Prop
  | nil {b : Text} (blanks : Blanks b) : SpellsEntries [] (b ++ [0x7D])
  | cons {k : Text} {v : Json} {es : List (Text × Json)} {b c s r : Text} (blanks : Blanks b)
      (gap : Blanks c) (value : Spells v s) (rest : SpellsEntries es r) :
      SpellsEntries ((k, v) :: es) (44 :: (b ++ (string k ++ 58 :: (c ++ (s ++ r)))))

end

section Printer

variable {g : Gaps} (hg : g.Blank)
include hg

mutual

/-- What the printer writes spells the document. -/
theorem spells_write : ∀ (level : Nat) (j : Json), Spells j (write g level j)
  | _, .null => .null
  | _, .bool true => .bool true
  | _, .bool false => .bool false
  | _, .int n => .int n
  | _, .double d => .double d
  | _, .text t => .text t
  | _, .list [] => .noItems
  | level, .list (x :: xs) =>
    .items (hg.item _) (spells_write (level + 1) x) (spellsItems_write level xs)
  | _, .dict [] => .noEntries
  | level, .dict ((_, v) :: es) =>
    .entries (hg.item _) hg.colon (spells_write (level + 1) v) (spellsEntries_write level es)

theorem spellsItems_write : ∀ (level : Nat) (xs : List Json),
    SpellsItems xs (writeItems g level xs)
  | _, [] => .nil (hg.item _)
  | level, x :: xs => .cons (hg.item _) (spells_write (level + 1) x) (spellsItems_write level xs)

theorem spellsEntries_write : ∀ (level : Nat) (es : List (Text × Json)),
    SpellsEntries es (writeEntries g level es)
  | _, [] => .nil (hg.item _)
  | level, (_, v) :: es =>
    .cons (hg.item _) hg.colon (spells_write (level + 1) v) (spellsEntries_write level es)

end

end Printer

/-- What spells a document starts a value. -/
theorem Spells.head {j : Json} {t : Text} (h : Spells j t) (hj : Faithful j) :
    ∃ c r, t = c :: r ∧ StartsValue c := by
  have hnumber : ∀ {t : Text} {p : Json × Text}, readNumber (t ++ []) = .ok p →
      ∃ c r, t = c :: r ∧ StartsValue c := by
    intro t p h
    rw [List.append_nil] at h
    obtain ⟨c, r, hc, rfl | rfl⟩ := head_of_readNumber h
    · exact ⟨c, r, rfl, startsValue_of_isDigit hc⟩
    · exact ⟨45, c :: r, rfl, by decide⟩
  cases h with
  | bool b =>
    cases b with
    | false => exact ⟨_, _, rfl, by decide⟩
    | true => exact ⟨_, _, rfl, by decide⟩
  | int n => exact hnumber (readNumber_ofInt hj endsNumber_nil)
  | double d => exact hnumber (readNumber_doubleText hj endsNumber_nil)
  | null | text | noItems | items | noEntries | entries => exact ⟨_, _, rfl, by decide⟩

/-! ## Values -/

theorem setEntry_fresh {α : Type} {done : List (Text × α)} {k : Text} (v : α)
    (hk : k ∉ done.map Prod.fst) : setEntry done k v = done ++ [(k, v)] := by
  induction done with
  | nil => rfl
  | cons e done ih =>
    obtain ⟨k', v'⟩ := e
    rw [List.map_cons, List.mem_cons, not_or] at hk
    rw [setEntry, if_neg (Ne.symm hk.1), ih hk.2]
    rfl

section Opening

variable {room inner : Room} (henter : room.enter? = some inner)
include henter

theorem readValue_emptyList (fuel : Nat) (rest : Text) :
    readValue (fuel + 1) room (91 :: 93 :: rest) = .ok (.list [], rest) := by
  rw [readValue, henter]
  rfl

theorem readValue_emptyDict (fuel : Nat) (rest : Text) :
    readValue (fuel + 1) room (0x7B :: 0x7D :: rest) = .ok (.dict [], rest) := by
  rw [readValue, henter]
  rfl

theorem readValue_bracket (fuel : Nat) {t : Text} (h : ∀ r, skipBlanks t ≠ 93 :: r) :
    readValue (fuel + 1) room (91 :: t) = readItems fuel inner [] (skipBlanks t) := by
  rw [readValue, henter]
  split
  · next hnone => cases hnone
  · next hr => exact absurd hr (h _)
  · next hsome hr =>
    cases hsome
    rfl

theorem readValue_brace (fuel : Nat) {t : Text} (h : ∀ r, skipBlanks t ≠ 0x7D :: r) :
    readValue (fuel + 1) room (0x7B :: t) = readMembers fuel inner [] (skipBlanks t) := by
  rw [readValue, henter]
  split
  · next hnone => cases hnone
  · next hr => exact absurd hr (h _)
  · next hsome hr =>
    cases hsome
    rfl

end Opening

/-- What the reader does behind an item. -/
def afterItem (fuel : Nat) (room : Room) (done : List Json) (t : Text) : Step Json :=
  match skipBlanks t with
  | 93 :: r => .ok (.list done.reverse, r)
  | 44 :: r => readItems fuel room done (skipBlanks r)
  | r => .error (.problem .comma r.length)

/-- What the reader does behind an entry. -/
def afterEntry (fuel : Nat) (room : Room) (done : List (Text × Json)) (t : Text) : Step Json :=
  match skipBlanks t with
  | 0x7D :: r => .ok (.dict done, r)
  | 44 :: r => readMembers fuel room done (skipBlanks r)
  | r => .error (.problem .comma r.length)

theorem length_string (k : Text) : k.length + 2 ≤ (string k).length := by
  have h : k.length ≤ (k.flatMap escape).length := by
    induction k with
    | nil => exact Nat.le_refl _
    | cons c k ih =>
      have hc : 1 ≤ (escape c).length := by
        unfold escape
        repeat' split
        all_goals simp [Text.Hex.ofNat]
      rw [List.flatMap_cons, List.length_append, List.length_cons]
      omega
  simp only [string, List.length_cons, List.length_append, List.length_nil]
  omega

theorem skipBlanks_spells {x : Json} (hx : Faithful x) {s : Text} (hs : Spells x s) {b : Text}
    (hb : Blanks b) (t : Text) : skipBlanks (b ++ (s ++ t)) = s ++ t := by
  obtain ⟨c, r, rfl, hc⟩ := hs.head hx
  exact skipBlanks_append hb (by simp [hc.1])

theorem skipBlanks_string {b : Text} (hb : Blanks b) (k t : Text) :
    skipBlanks (b ++ (string k ++ t)) = 34 :: (k.flatMap escape ++ 34 :: t) := by
  have hstring : string k ++ t = 34 :: (k.flatMap escape ++ 34 :: t) := by
    simp [string, quote]
  rw [hstring]
  exact skipBlanks_append hb (by simp [isBlank])

/-- A list behind its first item ends a number, as a dictionary does. -/
theorem SpellsItems.endsNumber {xs : List Json} {s : Text} (h : SpellsItems xs s) (rest : Text) :
    EndsNumber (s ++ rest) := by
  cases h with
  | nil hb =>
    rw [List.append_assoc]
    exact endsNumber_gap hb (by decide)
  | cons => exact endsNumber_cons (by decide)

theorem SpellsEntries.endsNumber {es : List (Text × Json)} {s : Text} (h : SpellsEntries es s)
    (rest : Text) : EndsNumber (s ++ rest) := by
  cases h with
  | nil hb =>
    rw [List.append_assoc]
    exact endsNumber_gap hb (by decide)
  | cons => exact endsNumber_cons (by decide)

/-- An item is read past the blanks in front of it. -/
theorem readItems_spells {x : Json} (hx : Faithful x) {s : Text} (hs : Spells x s) {b : Text}
    (hb : Blanks b) {fuel : Nat} {room : Room} {t : Text}
    (h : readValue fuel room (s ++ t) = .ok (x, t)) (done : List Json) :
    readItems (fuel + 1) room done (skipBlanks (b ++ (s ++ t))) =
      afterItem fuel room (x :: done) t := by
  rw [skipBlanks_spells hx hs hb, readItems, h]
  rfl

/-- An entry is read past the blanks in front of it and behind its colon. -/
theorem readMembers_spells {v : Json} (hv : Faithful v) {s : Text} (hs : Spells v s) {b c : Text}
    (hb : Blanks b) (hc : Blanks c) {k : Text} {fuel : Nat} (hk : k.length < fuel + 1)
    {room : Room} {t : Text} (h : readValue fuel room (s ++ t) = .ok (v, t))
    (done : List (Text × Json)) :
    readMembers (fuel + 1) room done (skipBlanks (b ++ (string k ++ 58 :: (c ++ (s ++ t))))) =
      afterEntry fuel room (setEntry done k v) t := by
  have hcolon : ∀ t, skipBlanks (58 :: t) = 58 :: t := fun _ => rfl
  rw [skipBlanks_string hb, readMembers]
  simp only [readString_string hk, hcolon, skipBlanks_spells hv hs hc, h]
  rfl

mutual

/-- Where there is room for it the reader gets a faithful document back from what spells it, with
the text behind it. -/
theorem Spells.readValue {j : Json} {t : Text} (h : Spells j t) (hj : Faithful j) (fuel : Nat)
    {room : Room} (hroom : room.Holds (depth j)) (rest : Text) (hrest : EndsNumber rest)
    (hfuel : 2 * t.length ≤ fuel) : readValue fuel room (t ++ rest) = .ok (j, rest) := by
  obtain ⟨c, r, hhead, -⟩ := h.head hj
  have hlength : 0 < t.length := by rw [hhead, List.length_cons]; omega
  obtain ⟨fuel, rfl⟩ : ∃ n, fuel = n + 1 := ⟨fuel - 1, by omega⟩
  match h with
  | .null => rfl
  | .bool true => rfl
  | .bool false => rfl
  | .int n => exact readValue_of_readNumber fuel room (readNumber_ofInt hj hrest)
  | .double d => exact readValue_of_readNumber fuel room (readNumber_doubleText hj hrest)
  | .text t =>
    have hlength := length_string t
    have hread : readString (fuel + 1) (t.flatMap escape ++ 34 :: rest) = .ok (t, rest) :=
      readString_string (by omega) rest
    have hwrite : string t ++ rest = 34 :: (t.flatMap escape ++ 34 :: rest) := by
      simp [string, quote]
    rw [hwrite, Json.readValue, hread]
    rfl
  | .noItems =>
    obtain ⟨inner, henter, -⟩ := hroom.exists_enter
    exact readValue_emptyList henter fuel rest
  | .items (x := x) (b := b) (s := s) (r := r) hb hs hr =>
    obtain ⟨inner, henter, hinner⟩ := hroom.exists_enter
    simp only [List.length_cons, List.length_append] at hfuel
    obtain ⟨fuel, rfl⟩ : ∃ n, fuel = n + 1 := ⟨fuel - 1, by omega⟩
    have hvalue := hs.readValue hj.1 fuel hinner.left (r ++ rest) (hr.endsNumber rest) (by omega)
    have hitems := hr.afterItem hj.2 fuel hinner.right [x] rest (by omega)
    have hopen := skipBlanks_spells hj.1 hs hb (r ++ rest)
    obtain ⟨c, s', rfl, hc⟩ := hs.head hj.1
    rw [List.cons_append, List.append_assoc, List.append_assoc,
      readValue_bracket henter _ (by rw [hopen]; simp [hc.2.1]),
      readItems_spells hj.1 hs hb hvalue]
    exact hitems
  | .noEntries =>
    obtain ⟨inner, henter, -⟩ := hroom.exists_enter
    exact readValue_emptyDict henter fuel rest
  | .entries (k := k) (v := v) (b := b) (c := c) (s := s) (r := r) hb hc hs hr =>
    obtain ⟨inner, henter, hinner⟩ := hroom.exists_enter
    have hlength := length_string k
    simp only [List.length_cons, List.length_append] at hfuel
    obtain ⟨fuel, rfl⟩ : ∃ n, fuel = n + 1 := ⟨fuel - 1, by omega⟩
    have hvalue := hs.readValue hj.2.1 fuel hinner.left (r ++ rest) (hr.endsNumber rest) (by omega)
    have hentries := hr.afterEntry hj.2.2 fuel hinner.right [(k, v)] rest hj.1 (by omega)
    have hopen := skipBlanks_string hb k (58 :: (c ++ (s ++ (r ++ rest))))
    simp only [List.cons_append, List.append_assoc]
    rw [readValue_brace henter _ (by rw [hopen]; simp),
      readMembers_spells hj.2.1 hs hb hc (by omega) hvalue]
    exact hentries

theorem SpellsItems.afterItem {xs : List Json} {t : Text} (h : SpellsItems xs t)
    (hxs : FaithfulItems xs) (fuel : Nat) {room : Room} (hroom : room.Holds (depthItems xs))
    (done : List Json) (rest : Text) (hfuel : 2 * t.length ≤ fuel) :
    afterItem fuel room done (t ++ rest) = .ok (.list (done.reverse ++ xs), rest) := by
  match h with
  | .nil (b := b) hb =>
    have hskip : skipBlanks (b ++ [93] ++ rest) = 93 :: rest := by
      rw [List.append_assoc]
      exact skipBlanks_append hb (by simp [isBlank])
    rw [Json.afterItem, hskip, List.append_nil]
    rfl
  | .cons (x := x) (b := b) (s := s) (r := r) hb hs hr =>
    simp only [List.length_cons, List.length_append] at hfuel
    obtain ⟨fuel, rfl⟩ : ∃ n, fuel = n + 1 := ⟨fuel - 1, by omega⟩
    have hvalue := hs.readValue hxs.1 fuel hroom.left (r ++ rest) (hr.endsNumber rest) (by omega)
    have hitems := hr.afterItem hxs.2 fuel hroom.right (x :: done) rest (by omega)
    rw [← readItems_spells hxs.1 hs hb hvalue] at hitems
    rw [List.reverse_cons, List.append_assoc] at hitems
    rw [List.cons_append, List.append_assoc, List.append_assoc]
    exact hitems

theorem SpellsEntries.afterEntry {es : List (Text × Json)} {t : Text} (h : SpellsEntries es t)
    (hes : FaithfulEntries es) (fuel : Nat) {room : Room} (hroom : room.Holds (depthEntries es))
    (done : List (Text × Json)) (rest : Text) (hkeys : ((done ++ es).map Prod.fst).Nodup)
    (hfuel : 2 * t.length ≤ fuel) :
    afterEntry fuel room done (t ++ rest) = .ok (.dict (done ++ es), rest) := by
  match h with
  | .nil (b := b) hb =>
    have hskip : skipBlanks (b ++ [0x7D] ++ rest) = 0x7D :: rest := by
      rw [List.append_assoc]
      exact skipBlanks_append hb (by simp [isBlank])
    rw [Json.afterEntry, hskip, List.append_nil]
    rfl
  | @SpellsEntries.cons k v es b c s r hb hc hs hr =>
    have hlength := length_string k
    have hfresh : k ∉ done.map Prod.fst := by
      rw [List.map_append, List.nodup_append] at hkeys
      exact fun hk => hkeys.2.2 k hk k List.mem_cons_self rfl
    simp only [List.length_cons, List.length_append] at hfuel
    obtain ⟨fuel, rfl⟩ : ∃ n, fuel = n + 1 := ⟨fuel - 1, by omega⟩
    have hvalue := hs.readValue hes.1 fuel hroom.left (r ++ rest) (hr.endsNumber rest) (by omega)
    have hentries := hr.afterEntry hes.2 fuel hroom.right (done ++ [(k, v)]) rest
      (by rwa [List.append_cons] at hkeys) (by omega)
    rw [← setEntry_fresh v hfresh, ← readMembers_spells hes.1 hs hb hc (by omega) hvalue,
      setEntry_fresh v hfresh, ← List.append_cons] at hentries
    simp only [List.cons_append, List.append_assoc]
    exact hentries

end

/-! ## Documents -/

section Documents

variable {j : Json} (hj : Faithful j) {room : Room} (hroom : room.Holds (depth j))
include hj hroom

/-- A spelled document alone in a text, with blanks behind it. -/
theorem readWhole_spells {t : Text} (ht : Spells j t) {b : Text} (hb : Blanks b) :
    readWhole (t ++ b) room = .ok j := by
  have hfront : skipBlanks (t ++ b) = t ++ b :=
    skipBlanks_spells hj ht (b := []) (fun _ h => nomatch h) b
  have hends : EndsNumber b := by
    cases b with
    | nil => exact endsNumber_nil
    | cons x b =>
      have hx := hb x List.mem_cons_self
      simp only [isBlank, Bool.or_eq_true, beq_iff_eq] at hx
      exact endsNumber_cons (by rcases hx with ((rfl | rfl) | rfl) | rfl <;> decide)
  have hread := ht.readValue hj (2 * (t ++ b).length + 2) hroom b hends
    (by rw [List.length_append]; omega)
  have hblank : skipBlanks b = [] := by
    have h := skipBlanks_append (t := []) hb (by simp)
    rwa [List.append_nil] at h
  simp only [readWhole, hfront, hread, hblank]

omit hj hroom in
/-- What is read as a whole is read, when no byte order mark is in front. -/
theorem read_eq_readWhole {t : Text} (h : ∀ r, t ≠ 0xFEFF :: r) (room : Room) :
    read t room = readWhole t room := by
  unfold read
  split
  · exact absurd rfl (h _)
  · rfl

theorem read_spells {t : Text} (ht : Spells j t) {b : Text} (hb : Blanks b) :
    read (t ++ b) room = .ok j := by
  obtain ⟨c, r, hhead, hc⟩ := ht.head hj
  rw [read_eq_readWhole (by rw [hhead]; simp [hc.2.2.2])]
  exact readWhole_spells hj hroom ht hb

/-- A document in lines reads back. -/
theorem read_pretty : read (pretty j) room = .ok j := by
  rw [pretty, ← write_inLines]
  exact read_spells hj hroom (spells_write inLines_blank 0 j) (by simp [Blanks, isBlank])

/-- A document on one line reads back. -/
theorem read_compact : read (compact j) room = .ok j := by
  rw [← write_flat 0, ← List.append_nil (write flat 0 j)]
  exact read_spells hj hroom (spells_write flat_blank 0 j) (by simp [Blanks])

end Documents

end ProofLedger.Json
