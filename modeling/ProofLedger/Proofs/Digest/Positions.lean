import ProofLedger.Proofs.Digest.Members

/-!
# Position by position

A position in a value is a way down into it: to an item of a list by its index, and to a member of a
dictionary by the normal form of its key, where the bearer of that name is met. A canonical text has
the same positions as its value (`canonicalText_agrees`): a position leads somewhere in both or in
neither, to a list with as many items, and to a dictionary with as many members as the keys in the
value have normal forms. So no member is lost exactly when no dictionary in the value has two keys
with one normal form.
-/

namespace ProofLedger

/-- One step down: to an item of a list, or to the member of a dictionary that has a name. -/
inductive Descent where
  | item (index : Nat)
  | member (name : Text)

namespace Json

/-- What is one step down in a document. -/
def child? : Json → Descent → Option Json
  | .list xs, .item i => xs[i]?
  | .dict es, .member name => (es.find? (·.1 == name)).map (·.2)
  | _, _ => none

/-- What is at a position of a document. -/
def at? (j : Json) : List Descent → Option Json
  | [] => some j
  | s :: path => (j.child? s).bind fun k => k.at? path

/-- How many items or members there are. -/
def count : Json → Nat
  | .list xs => xs.length
  | .dict es => es.length
  | _ => 0

end Json

namespace Data

/-- The entries of a dictionary whose keys are texts. -/
def members (es : List (Key × Data)) : List (Text × Data) :=
  es.filterMap fun e =>
    match e.1 with
    | .text t => some (t, e.2)
    | _ => none

/-- What is one step down in a value. -/
def child? : Data → Descent → Option Data
  | .list xs, .item i => xs[i]?
  | .tuple xs, .item i => xs[i]?
  | .dict es, .member name => (bearer? (members es) name).map (·.2)
  | _, _ => none

/-- What is at a position of a value. -/
def at? (d : Data) : List Descent → Option Data
  | [] => some d
  | s :: path => (d.child? s).bind fun e => e.at? path

/-- How many items or members there are. -/
def count (d : Data) : Nat := d.parts.length

/-- The normal forms of the keys of a dictionary. -/
def names (es : List (Key × Data)) : List Key := (es.map fun e => e.1.normal).dedup

/-- The document is of the kind of the value: the same null, truth value or integer, the normal form
of a text, a list with as many items, or a dictionary with as many members as there are names. -/
def Agrees : Data → Json → Prop
  | .null, .null => True
  | .bool b, .bool c => c = b
  | .int n, .int m => m = n
  | .text t, .text u => u = t.nfc
  | .list xs, .list ys => ys.length = xs.length
  | .tuple xs, .list ys => ys.length = xs.length
  | .dict es, .dict os => os.length = (names es).length
  | _, _ => False

/-- The value and the document have the same positions, and agree at each of them. -/
def Matches (d : Data) (j : Json) : Prop :=
  ∀ path : List Descent, Option.Rel Agrees (d.at? path) (j.at? path)

/-! ## Pairs in lists -/

section Pairs

variable {α β γ δ : Type} {R : α → β → Prop}

theorem rel_bind {S : γ → δ → Prop} {f : α → Option γ} {g : β → Option δ} {a : Option α}
    {b : Option β} (h : Option.Rel R a b) (hf : ∀ x y, R x y → Option.Rel S (f x) (g y)) :
    Option.Rel S (a.bind f) (b.bind g) := by
  cases h with
  | none => exact .none
  | some hxy => exact hf _ _ hxy

theorem rel_map {S : γ → δ → Prop} {f : α → γ} {g : β → δ} {a : Option α} {b : Option β}
    (h : Option.Rel R a b) (hf : ∀ x y, R x y → S (f x) (g y)) :
    Option.Rel S (a.map f) (b.map g) := by
  cases h with
  | none => exact .none
  | some hxy => exact .some (hf _ _ hxy)

theorem rel_getElem?_of_forall₂ {xs : List α} {ys : List β} (h : List.Forall₂ R xs ys) (i : Nat) :
    Option.Rel R xs[i]? ys[i]? := by
  induction h generalizing i with
  | nil => exact .none
  | cons hxy _ ih =>
    cases i with
    | zero => exact .some hxy
    | succ i => exact ih i

theorem rel_find?_of_forall₂ {p : α → Bool} {q : β → Bool} {xs : List α} {ys : List β}
    (h : List.Forall₂ R xs ys) (hpq : ∀ x y, R x y → p x = q y) :
    Option.Rel R (xs.find? p) (ys.find? q) := by
  induction h with
  | nil => exact .none
  | @cons x y xs ys hxy _ ih =>
    rw [List.find?_cons, List.find?_cons, hpq x y hxy]
    cases q y with
    | true => exact .some hxy
    | false => exact ih

theorem map_eq_of_forall₂ {f : α → γ} {g : β → γ} {xs : List α} {ys : List β}
    (h : List.Forall₂ R xs ys) (hfg : ∀ x y, R x y → f x = g y) : xs.map f = ys.map g := by
  rw [← List.forall₂_eq_eq_eq, List.forall₂_map_left_iff, List.forall₂_map_right_iff]
  exact h.imp hfg

/-- Entries with the same keys are sorted alike. -/
theorem forall₂_sortEntries {S : Text × α → Text × β → Prop} {es : List (Text × α)}
    {os : List (Text × β)} (h : List.Forall₂ S es os) (hkey : ∀ e o, S e o → e.1 = o.1) :
    List.Forall₂ S (Json.sortEntries es) (Json.sortEntries os) := by
  obtain ⟨hlength, hpairs⟩ := List.forall₂_iff_zip.mp h
  -- the pairs are sorted by the keys of their first halves, which are those of the second halves
  let sorted := (es.zip os).mergeSort fun a b => !decide (b.1.1 < a.1.1)
  have hfirst : sorted.map Prod.fst = Json.sortEntries es := by
    refine (List.map_mergeSort (s := fun a b : Text × α => !decide (b.1 < a.1)) ?_).trans ?_
    · exact fun _ _ _ _ => rfl
    · rw [List.map_fst_zip (Nat.le_of_eq hlength)]
      rfl
  have hsecond : sorted.map Prod.snd = Json.sortEntries os := by
    refine (List.map_mergeSort (s := fun a b : Text × β => !decide (b.1 < a.1)) ?_).trans ?_
    · intro a ha b hb
      rw [hkey _ _ (hpairs ha), hkey _ _ (hpairs hb)]
    · rw [List.map_snd_zip (Nat.le_of_eq hlength.symm)]
      rfl
  rw [← hfirst, ← hsecond, List.forall₂_map_left_iff, List.forall₂_map_right_iff,
    List.forall₂_same]
  intro pair hpair
  exact hpairs ((List.mergeSort_perm _ _).mem_iff.mp hpair)

end Pairs

/-! ## One level -/

section Level

variable {d e : Data} {j : Json} {s : Descent}

theorem Matches.intro (here : Agrees d j)
    (inside : ∀ s, Option.Rel Matches (d.child? s) (j.child? s)) : Matches d j := by
  intro path
  cases path with
  | nil => exact .some here
  | cons s path => exact rel_bind (inside s) fun _ _ hxy => hxy path

theorem Matches.here (h : Matches d j) : Agrees d j := by
  cases h [] with
  | some hagrees => exact hagrees

/-- One step down leads to a match. -/
theorem Matches.child (h : Matches d j) (he : d.child? s = some e) :
    ∃ k, j.child? s = some k ∧ Matches e k := by
  cases hk : j.child? s with
  | none =>
    have hrel := h [s]
    rw [at?, Json.at?, he, hk] at hrel
    cases hrel
  | some k =>
    refine ⟨k, rfl, fun path => ?_⟩
    have hrel := h (s :: path)
    rwa [at?, Json.at?, he, hk] at hrel

/-- The names of the keys of a dictionary are those of the keys in its document. -/
theorem map_normal_eq {R : Data → Json → Prop} {es : List (Key × Data)} {os : List (Text × Json)}
    (h : List.Forall₂ (fun e o => e.1 = .text o.1 ∧ R e.2 o.2) es os) :
    es.map (fun e => e.1.normal) = (os.map fun o => o.1.nfc).map Key.text := by
  rw [List.map_map]
  refine map_eq_of_forall₂ h fun e o he => ?_
  rw [he.1]
  rfl

theorem forall₂_members {R : Data → Json → Prop} {es : List (Key × Data)}
    {os : List (Text × Json)} (h : List.Forall₂ (fun e o => e.1 = .text o.1 ∧ R e.2 o.2) es os) :
    List.Forall₂ (fun e o => e.1 = o.1 ∧ R e.2 o.2) (members es) os := by
  induction h with
  | nil => exact .nil
  | @cons e o es os heo _ ih =>
    obtain ⟨k, v⟩ := e
    obtain ⟨rfl, hvalue⟩ := heo
    exact .cons ⟨rfl, hvalue⟩ ih

theorem Matches.list {xs : List Data} {ys : List Json} (h : List.Forall₂ Matches xs ys) :
    Matches (.list xs) (.list ys) := by
  refine .intro h.length_eq.symm fun s => ?_
  cases s with
  | item i => exact rel_getElem?_of_forall₂ h i
  | member name => exact .none

theorem Matches.tuple {xs : List Data} {ys : List Json} (h : List.Forall₂ Matches xs ys) :
    Matches (.tuple xs) (.list ys) := by
  refine .intro h.length_eq.symm fun s => ?_
  cases s with
  | item i => exact rel_getElem?_of_forall₂ h i
  | member name => exact .none

theorem Matches.dict {es : List (Key × Data)} {os : List (Text × Json)}
    (h : List.Forall₂ (fun e o => e.1 = .text o.1 ∧ Matches e.2 o.2) es os) :
    Matches (.dict es) (.dict (canonicalEntries os)) := by
  refine .intro ?_ fun s => ?_
  · have hinjective : Function.Injective Key.text := fun _ _ => Key.text.inj
    rw [Agrees, length_canonicalEntries, names, map_normal_eq h,
      List.dedup_map_of_injective hinjective, List.length_map]
  · cases s with
    | item i => exact .none
    | member name =>
      have hsorted := forall₂_sortEntries (forall₂_members h) fun _ _ he => he.1
      have hbearer := rel_find?_of_forall₂ (List.forall₂_reverse_iff.mpr hsorted)
        (p := fun e => e.1.nfc == name) (q := fun o => o.1.nfc == name)
        fun e o heo => by rw [heo.1]
      rw [child?, Json.child?, find?_canonicalEntries, Option.map_map]
      exact rel_map hbearer fun _ _ heo => heo.2

end Level

/-- A part of a value with its canonical document, wherever it is. -/
def Accepted (d : Data) (j : Json) : Prop := ∃ path, d.canonicalAt path = .ok j

/-- The canonical document of a value matches it. -/
theorem Accepted.matches {d : Data} {j : Json} (h : Accepted d j) : Matches d j := by
  have hleaf : ∀ {d : Data} {j : Json}, Agrees d j → (∀ s, d.child? s = none) →
      (∀ s, j.child? s = none) → Matches d j := by
    intro d j hagrees hd hj
    refine .intro hagrees fun s => ?_
    rw [hd, hj]
    exact .none
  induction d using induction_parts generalizing j with
  | step d ih =>
    have hpart : ∀ p ∈ d.parts, ∀ j, Accepted p j → Matches p j := fun p hp j => ih p hp
    obtain ⟨path, h⟩ := h
    cases d with
    | null | bool | int | text =>
      cases h
      exact hleaf (by simp [Agrees]) (fun s => by cases s <;> rfl) (fun s => by cases s <;> rfl)
    | double | bytes | other => cases h
    | list xs =>
      obtain ⟨js, hjs, rfl⟩ := map_eq_ok h
      exact .list (forall₂_imp_mem (canonicalItems_eq_ok hjs) hpart)
    | tuple xs =>
      obtain ⟨js, hjs, rfl⟩ := map_eq_ok h
      exact .tuple (forall₂_imp_mem (canonicalItems_eq_ok hjs) hpart)
    | dict es =>
      obtain ⟨os, hos, rfl⟩ := map_eq_ok h
      refine .dict (forall₂_imp_mem (canonicalFields_eq_ok hos) fun e he o ho => ?_)
      exact ⟨ho.1, hpart e.2 (List.mem_map_of_mem he) o.2 ho.2⟩

/-! ## Where nothing is lost -/

/-- At every position there are as many items or members in the document as in the value. -/
def Whole (d : Data) (j : Json) : Prop :=
  ∀ path x y, d.at? path = some x → j.at? path = some y → y.count = x.count

theorem distinctKeys_normal_iff (es : List (Key × Data)) :
    (Data.dict es).normal.DistinctKeys ↔ (es.map fun e => e.1.normal).Nodup := by
  rw [normal, DistinctKeys, normalEntries_eq, List.map_map]
  rfl

theorem length_names_eq_iff (es : List (Key × Data)) :
    (names es).length = es.length ↔ (Data.dict es).normal.DistinctKeys := by
  rw [distinctKeys_normal_iff, ← List.dedup_eq_self, names]
  constructor
  · intro hlength
    exact (List.dedup_sublist _).eq_of_length (by rw [hlength, List.length_map])
  · intro hsame
    rw [hsame, List.length_map]

/-- A dictionary keeps all its members when no two keys have one normal form, and only then. -/
theorem Agrees.count_eq_iff {d : Data} {j : Json} (h : Agrees d j) :
    j.count = d.count ↔ d.normal.DistinctKeys := by
  cases d with
  | dict es =>
    cases j with
    | dict os =>
      rw [← length_names_eq_iff, Json.count, count, parts, List.length_map,
        show os.length = (names es).length from h]
    | _ => cases h
  | list xs | tuple xs =>
    cases j with
    | list ys => exact iff_of_true h trivial
    | _ => cases h
  | _ =>
    cases j with
    | list | dict => cases h
    | _ => exact iff_of_true rfl trivial

section Descend

variable {d e p : Data} {j : Json} {s : Descent}

theorem mem_members {es : List (Key × Data)} {t : Text} {v : Data} :
    (t, v) ∈ members es ↔ (.text t, v) ∈ es := by
  rw [members, List.mem_filterMap]
  constructor
  · rintro ⟨⟨k, w⟩, he, hentry⟩
    cases k with
    | text u =>
      cases hentry
      exact he
    | _ => cases hentry
  · exact fun he => ⟨_, he, rfl⟩

theorem parts_normal (d : Data) : d.normal.parts = d.parts.map normal := by
  cases d with
  | list xs | tuple xs => exact normalItems_eq xs
  | dict es =>
    rw [normal, parts, parts, normalEntries_eq, List.map_map, List.map_map]
    rfl
  | _ => rfl

theorem mem_parts_of_child? (h : d.child? s = some e) : e ∈ d.parts := by
  cases d with
  | list xs | tuple xs =>
    cases s with
    | item i => exact List.mem_of_getElem? h
    | member name => cases h
  | dict es =>
    cases s with
    | item i => cases h
    | member name =>
      obtain ⟨⟨t, v⟩, hbearer, rfl⟩ := Option.map_eq_some_iff.mp h
      exact List.mem_map_of_mem (mem_members.mp (bearer?_eq_some hbearer).1)
  | _ => cases h

/-- What is accepted has parts that are. -/
theorem Accepted.part (h : Accepted d j) (hp : p ∈ d.parts) : ∃ k, Accepted p k := by
  obtain ⟨path, h⟩ := h
  cases d with
  | list xs | tuple xs =>
    obtain ⟨js, hjs, -⟩ := map_eq_ok h
    obtain ⟨k, -, hk⟩ := exists_of_forall₂ (canonicalItems_eq_ok hjs).flip hp
    exact ⟨k, hk⟩
  | dict es =>
    obtain ⟨os, hos, -⟩ := map_eq_ok h
    obtain ⟨e, he, rfl⟩ := List.mem_map.mp hp
    obtain ⟨o, -, -, ho⟩ := exists_of_forall₂ (canonicalFields_eq_ok hos).flip he
    exact ⟨o.2, ho⟩
  | _ => cases hp

/-- Every part of a value is one step down, when no two keys have one normal form. -/
theorem Accepted.exists_child? (h : Accepted d j) (hkeys : d.normal.DistinctKeys)
    (hp : p ∈ d.parts) : ∃ s, d.child? s = some p := by
  obtain ⟨path, h⟩ := h
  cases d with
  | list xs | tuple xs =>
    obtain ⟨i, hi⟩ := List.mem_iff_getElem?.mp hp
    exact ⟨.item i, hi⟩
  | dict es =>
    obtain ⟨os, hos, -⟩ := map_eq_ok h
    have hfields : List.Forall₂ (fun e o => e.1 = .text o.1 ∧ Accepted e.2 o.2) es os :=
      canonicalFields_eq_ok hos
    obtain ⟨⟨k, v⟩, he, rfl⟩ := List.mem_map.mp hp
    obtain ⟨o, -, hkey, -⟩ := exists_of_forall₂ hfields.flip he
    obtain rfl : k = .text o.1 := hkey
    have hnodup : ((members es).map fun e => e.1.nfc).Nodup := by
      have hsame : (members es).map (fun e => e.1.nfc) = os.map fun o => o.1.nfc :=
        map_eq_of_forall₂ (forall₂_members hfields) fun e o he => by rw [he.1]
      rw [distinctKeys_normal_iff, map_normal_eq hfields] at hkeys
      rw [hsame]
      exact hkeys.of_map Key.text
    refine ⟨.member o.1.nfc, ?_⟩
    rw [child?, bearer?_of_mem hnodup (mem_members.mpr he)]
    rfl
  | _ => cases hp

end Descend

theorem everywhere_of_whole {d : Data} {j k : Json} (haccepted : Accepted d k)
    (hmatches : Matches d j) (hwhole : Whole d j) : d.normal.Everywhere DistinctKeys := by
  induction d using induction_parts generalizing j k with
  | step d ih =>
    have hhere : d.normal.DistinctKeys := hmatches.here.count_eq_iff.mp (hwhole [] d j rfl rfl)
    refine .intro hhere fun q hq => ?_
    rw [parts_normal] at hq
    obtain ⟨p, hp, rfl⟩ := List.mem_map.mp hq
    obtain ⟨s, hs⟩ := haccepted.exists_child? hhere hp
    obtain ⟨_, hpart⟩ := haccepted.part hp
    obtain ⟨l, hl, hmatch⟩ := hmatches.child hs
    refine ih p hp hpart hmatch fun below x y hx hy => hwhole (s :: below) x y ?_ ?_
    · rw [at?, hs]
      exact hx
    · rw [Json.at?, hl]
      exact hy

theorem whole_of_everywhere {d : Data} {j : Json} (hmatches : Matches d j)
    (hkeys : d.normal.Everywhere DistinctKeys) : Whole d j := by
  intro path
  induction path generalizing d j with
  | nil =>
    rintro x y ⟨⟩ ⟨⟩
    exact hmatches.here.count_eq_iff.mpr hkeys.here
  | cons s path ih =>
    intro x y hx hy
    obtain ⟨e, hs, hx⟩ := Option.bind_eq_some_iff.mp hx
    obtain ⟨k, hk, hmatch⟩ := hmatches.child hs
    rw [Json.at?, hk] at hy
    exact ih hmatch (hkeys.part (mem_parts_normal (mem_parts_of_child? hs))) x y hx hy

/-- A canonical text, read as a document, has the positions of its value and agrees with it at each:
as many items as the list, and as many members as the keys of the dictionary have normal forms. No
member is lost exactly when no dictionary in the value has two keys with one normal form. -/
theorem canonicalText_agrees {d : Data} {t : Text} (h : d.canonicalText = .ok t) :
    ∃ j, Json.read t = .ok j ∧
      (∀ path : List Descent, Option.Rel Agrees (d.at? path) (j.at? path)) ∧
      ((∀ path x y, d.at? path = some x → j.at? path = some y → y.count = x.count) ↔
        d.normal.Everywhere DistinctKeys) := by
  obtain ⟨j, hj, hfits, rfl⟩ := canonicalText_eq_ok_iff.mp h
  have haccepted : Accepted d j := ⟨[], hj⟩
  have hmatches := haccepted.matches
  exact ⟨j, Json.read_compact (faithful_of_canonicalAt hj hfits) (Json.Room.holds_none _), hmatches,
    everywhere_of_whole haccepted hmatches, whole_of_everywhere hmatches⟩

/-- A dictionary with one accented key keeps its members. -/
theorem canonicalText_agrees_composed : ∃ t j, composed.canonicalText = .ok t ∧
    Json.read t = .ok j ∧ (∀ path, Option.Rel Agrees (composed.at? path) (j.at? path)) ∧
    ∀ path x y, composed.at? path = some x → j.at? path = some y → y.count = x.count := by
  have htext := canonicalText_spelled (d := composed) rfl <| by
    simp only [List.map, normalEntry, nfc_spellings]
    exact .swap ..
  have hkeys : composed.normal.Everywhere DistinctKeys := by
    rw [normal_composed]
    refine .intro (by simp [DistinctKeys]) fun p hp => ?_
    simp only [parts, List.map, List.mem_cons, List.not_mem_nil, or_false] at hp
    rcases hp with rfl | rfl
    · exact .intro trivial fun q hq => absurd hq List.not_mem_nil
    · exact .intro trivial fun q hq => absurd hq List.not_mem_nil
  obtain ⟨j, hread, hagrees, hwhole⟩ := canonicalText_agrees htext
  exact ⟨_, j, htext, hread, hagrees, hwhole.mpr hkeys⟩

/-- A dictionary with both spellings of one key. -/
def twoSpellings : Data := .dict [(.text [0xE9], .int 1), (.text [0x65, 0x301], .int 2)]

/-- Its two members are merged into one. -/
theorem merged_spellings : twoSpellings.count = 2 ∧
    ∃ t, twoSpellings.canonicalText = .ok t ∧ Json.read t = .ok (.dict [([0xE9], .int 1)]) := by
  have hsorted : Json.sortEntries [([0xE9], Json.int 1), ([0x65, 0x301], .int 2)] =
      [([0x65, 0x301], .int 2), ([0xE9], .int 1)] :=
    Json.sortEntries_eq_of_perm (.swap ..) (by simp; decide)
  have hentries : canonicalEntries [([0xE9], .int 1), ([0x65, 0x301], .int 2)] =
      [([0xE9], .int 1)] := by
    rw [canonicalEntries_eq_collected, hsorted, collected]
    simp only [List.foldl, nfc_spellings, Json.setEntry, ↓reduceIte]
    exact Json.sortEntries_eq_of_perm (.refl _) (List.pairwise_singleton ..)
  have hjson : twoSpellings.canonicalJson = .ok (.dict [([0xE9], .int 1)]) := by
    rw [← hentries]
    rfl
  have hfits : (Json.dict [([0xE9], .int 1)]).fits = true := by decide +kernel
  exact ⟨rfl, _, canonicalText_eq_ok_iff.mpr ⟨_, hjson, hfits, rfl⟩,
    Json.read_compact (faithful_of_canonicalAt hjson hfits) (Json.Room.holds_none _)⟩

end Data

end ProofLedger
