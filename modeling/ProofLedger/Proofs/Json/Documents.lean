import ProofLedger.Json.Encoding
import ProofLedger.Proofs.Json.CodePoints
import ProofLedger.Proofs.Outcome
import ProofLedger.Proofs.Text.Utf8

/-!
# Values as documents

`Data.toJson` puts a dictionary into key order, and what it makes is looked up by key all the
same: `toJson_fields` says that the entries of the document are those of the value in another
order, and `valueAt?_toDataEntries` that each is found under its name. `Data.Makes` is what holds
of the document of a value; the lemmas `makes_text` and so on build it up from the parts. Two
properties are inherited that way: that nothing is lost in writing, and that texts have octets.

Only dictionaries whose keys are texts are looked at. Keys of other kinds may fall together in
a document, and no record has any.
-/

namespace ProofLedger

/-! ## Entries under texts -/

/-- Entries under texts as entries of a dictionary. -/
def textEntries {α : Type} (es : List (Text × α)) : List (Key × α) :=
  es.map fun e => (.text e.1, e.2)

/-- Entries under texts are arranged by these as code points. -/
theorem sortByKey_textEntries {α : Type} (es : List (Text × α)) :
    sortByKey (textEntries es) = .ok (textEntries (Json.sortEntries es)) := by
  have hfamily : ∀ x ∈ textEntries es, x.1.family = .text := by
    intro x hx
    obtain ⟨e, -, rfl⟩ := List.mem_map.mp hx
    rfl
  have hnan : (textEntries es).any (·.1.isNan) = false := by
    rw [List.any_eq_false]
    intro x hx
    obtain ⟨e, -, rfl⟩ := List.mem_map.mp hx
    exact Bool.false_ne_true
  have hsort : textEntries (Json.sortEntries es) =
      (textEntries es).mergeSort fun a b => !b.1.lt a.1 :=
    List.map_mergeSort fun _ _ _ _ => rfl
  have hsorted : sortByKey? (textEntries es) = some (textEntries (Json.sortEntries es)) := by
    rw [hsort]
    unfold sortByKey?
    split
    · next h => rw [h, List.mergeSort_nil]
    · next e h => rw [h, List.mergeSort_singleton]
    · next e r _ h =>
      have hcommon : ¬(e.1.family = .other ∨ r.any (fun x => x.1.family != e.1.family)) := by
        rw [h] at hfamily
        have he := hfamily e List.mem_cons_self
        rw [he]
        rintro (hother | hother)
        · cases hother
        · obtain ⟨x, hx, hne⟩ := List.any_eq_true.mp hother
          rw [hfamily x (List.mem_cons_of_mem _ hx)] at hne
          cases hne
      rw [if_neg hcommon, hnan]
      rfl
  rw [sortByKey, hsorted]

/-- What stands under a name in a dictionary that has no name twice. -/
theorem valueAt?_textEntries {α : Type} {es : List (Text × α)} (hkeys : (es.map Prod.fst).Nodup)
    {k : Text} {v : α} (h : (k, v) ∈ es) : valueAt? (textEntries es) k = some v := by
  induction es with
  | nil => cases h
  | cons e es ih =>
    rw [List.map_cons, List.nodup_cons] at hkeys
    rcases List.mem_cons.mp h with rfl | h
    · simp [valueAt?, textEntries]
    · have hne : e.1 ≠ k := fun hk => hkeys.1 (hk ▸ List.mem_map_of_mem h)
      have := ih hkeys.2 h
      simpa [valueAt?, textEntries, hne] using this

namespace Json

theorem toDataEntries_eq (es : List (Text × Json)) :
    toDataEntries es = textEntries (es.map fun e => (e.1, e.2.toData)) := by
  induction es with
  | nil => rfl
  | cons e es ih =>
    rw [toDataEntries, ih]
    rfl

theorem toDataItems_eq (xs : List Json) : toDataItems xs = xs.map toData := by
  induction xs with
  | nil => rfl
  | cons x xs ih =>
    rw [toDataItems, ih]
    rfl

/-- An entry of a document is found under its name. -/
theorem valueAt?_toDataEntries {es : List (Text × Json)} (hkeys : (es.map Prod.fst).Nodup)
    {k : Text} {j : Json} (h : (k, j) ∈ es) :
    valueAt? (toDataEntries es) k = some j.toData := by
  rw [toDataEntries_eq]
  refine valueAt?_textEntries ?_ (List.mem_map.mpr ⟨_, h, rfl⟩)
  rwa [List.map_map]

/-- A property that numbers have, and lists and dictionaries when their parts have it. -/
structure Inherited (P : Json → Prop) : Prop where
  int : ∀ {n : Int}, Number.fits n = true → P (.int n)
  double : ∀ {d : Double}, d.isFinite = true → P (.double d)
  list : ∀ {xs : List Json}, (∀ x ∈ xs, P x) → P (.list xs)
  dict : ∀ {es : List (Text × Json)}, (es.map Prod.fst).Nodup →
    (∀ e ∈ es, Text.Scalar e.1 ∧ P e.2) → P (.dict es)

theorem faithfulItems_of_forall {xs : List Json} (h : ∀ x ∈ xs, Faithful x) :
    FaithfulItems xs := by
  induction xs with
  | nil => trivial
  | cons x xs ih =>
    exact ⟨h x List.mem_cons_self, ih fun y hy => h y (List.mem_cons_of_mem _ hy)⟩

theorem faithfulEntries_of_forall {es : List (Text × Json)} (h : ∀ e ∈ es, Faithful e.2) :
    FaithfulEntries es := by
  induction es with
  | nil => trivial
  | cons e es ih =>
    exact ⟨h e List.mem_cons_self, ih fun y hy => h y (List.mem_cons_of_mem _ hy)⟩

theorem textsItems_of_mem {P : Nat → Prop} {xs : List Json} (h : ∀ x ∈ xs, Texts P x) :
    TextsItems P xs := by
  induction xs with
  | nil => trivial
  | cons x xs ih =>
    exact ⟨h x List.mem_cons_self, ih fun y hy => h y (List.mem_cons_of_mem _ hy)⟩

theorem textsEntries_of_mem {P : Nat → Prop} {es : List (Text × Json)}
    (h : ∀ e ∈ es, (∀ c ∈ e.1, 32 ≤ c → P c) ∧ Texts P e.2) : TextsEntries P es := by
  induction es with
  | nil => trivial
  | cons e es ih =>
    obtain ⟨hkey, hvalue⟩ := h e List.mem_cons_self
    exact ⟨hkey, hvalue, ih fun y hy => h y (List.mem_cons_of_mem _ hy)⟩

/-- Nothing is lost in writing a whole of which no part loses anything. -/
theorem inherited_faithful : Inherited Faithful where
  int := id
  double := id
  list := faithfulItems_of_forall
  dict hkeys hes := ⟨hkeys, faithfulEntries_of_forall fun e he => (hes e he).2⟩

/-- The texts of a whole are those of its parts. -/
theorem inherited_texts : Inherited (Texts fun c => Text.isScalar c = true) where
  int _ := trivial
  double _ := trivial
  list := textsItems_of_mem
  dict _ hes := textsEntries_of_mem fun e he =>
    ⟨fun c hc _ => List.all_eq_true.mp (hes e he).1 c hc, (hes e he).2⟩

end Json

/-! ## What a value becomes -/

namespace Data

theorem toJsonItems_eq_ok {xs : List Data} {js : List Json} (h : toJsonItems xs = .ok js) :
    xs.map toJson = js.map .ok := by
  induction xs generalizing js with
  | nil =>
    cases h
    rfl
  | cons x xs ih =>
    obtain ⟨y, hy, h⟩ := bind_eq_ok h
    obtain ⟨ys, hys, h⟩ := bind_eq_ok h
    cases h
    rw [List.map_cons, List.map_cons, hy, ih hys]

theorem toJsonItems_map {α : Type} {f : α → Data} {g : α → Json} {xs : List α}
    (h : ∀ x ∈ xs, (f x).toJson = .ok (g x)) : toJsonItems (xs.map f) = .ok (xs.map g) := by
  induction xs with
  | nil => rfl
  | cons x xs ih =>
    rw [List.map_cons, toJsonItems, h x List.mem_cons_self,
      ih fun y hy => h y (List.mem_cons_of_mem _ hy)]
    rfl

theorem toJsonEntries_textEntries (es : List (Text × Data)) :
    toJsonEntries (textEntries es) = textEntries (es.map fun e => (e.1, e.2.toJson)) := by
  induction es with
  | nil => rfl
  | cons e es ih =>
    rw [textEntries, List.map_cons, toJsonEntries]
    exact congrArg _ ih

theorem documentEntries_textEntries {es : List (Text × Except JsonFault Json)}
    {out : List (Text × Json)} (h : documentEntries (textEntries es) = .ok out) :
    es = out.map fun o => (o.1, .ok o.2) := by
  induction es generalizing out with
  | nil =>
    cases h
    rfl
  | cons e es ih =>
    obtain ⟨k, hk, h⟩ := bind_eq_ok h
    obtain ⟨v, hv, h⟩ := bind_eq_ok h
    obtain ⟨rest, hrest, h⟩ := bind_eq_ok h
    cases h
    cases hk
    rw [List.map_cons, ← ih hrest]
    exact congrArg (fun v => (e.1, v) :: es) hv

theorem documentEntries_map (out : List (Text × Json)) :
    documentEntries (textEntries (out.map fun o => (o.1, .ok o.2))) = .ok out := by
  induction out with
  | nil => rfl
  | cons o out ih =>
    rw [textEntries] at ih
    rw [textEntries, List.map_cons, List.map_cons, documentEntries, ih]
    rfl

/-- The entries that a dictionary becomes: each under its name, with the document of its
value, in key order. -/
theorem toJson_dict_eq_ok {es : List (Text × Data)} {j : Json}
    (h : (Data.dict (textEntries es)).toJson = .ok j) :
    ∃ out, j = .dict out ∧ (out.map fun o => (o.1, Except.ok o.2)) =
      Json.sortEntries (es.map fun e => (e.1, e.2.toJson)) := by
  rw [toJson, toJsonEntries_textEntries, sortByKey_textEntries] at h
  obtain ⟨out, hout, rfl⟩ := map_eq_ok h
  exact ⟨out, rfl, (documentEntries_textEntries hout).symm⟩

theorem toJson_dict_perm {es : List (Text × Data)} {j : Json}
    (h : (Data.dict (textEntries es)).toJson = .ok j) :
    ∃ out, j = .dict out ∧
      (out.map fun o => (o.1, Except.ok o.2)).Perm (es.map fun e => (e.1, e.2.toJson)) := by
  obtain ⟨out, rfl, hout⟩ := toJson_dict_eq_ok h
  exact ⟨out, rfl, hout ▸ List.mergeSort_perm _ _⟩

/-- A list is a document when its items are. -/
theorem exists_toJson_list {xs : List Data} (h : ∀ x ∈ xs, ∃ v, x.toJson = .ok v) :
    ∃ j, (Data.list xs).toJson = .ok j := by
  have hitems : ∃ js, toJsonItems xs = .ok js := by
    induction xs with
    | nil => exact ⟨[], rfl⟩
    | cons x xs ih =>
      obtain ⟨v, hv⟩ := h x List.mem_cons_self
      obtain ⟨js, hjs⟩ := ih fun y hy => h y (List.mem_cons_of_mem _ hy)
      exact ⟨v :: js, by rw [toJsonItems, hv, hjs]; rfl⟩
  obtain ⟨js, hjs⟩ := hitems
  exact ⟨.list js, by rw [toJson, hjs]; rfl⟩

theorem documentEntries_eq_error {es : List (Text × Except JsonFault Json)} {f : JsonFault}
    (h : documentEntries (textEntries es) = .error f) : ∃ e ∈ es, e.2 = .error f := by
  induction es with
  | nil => cases h
  | cons e es ih =>
    rcases bind_eq_error h with hk | ⟨k, -, h⟩
    · cases hk
    rcases bind_eq_error h with hv | ⟨v, -, h⟩
    · exact ⟨e, List.mem_cons_self, hv⟩
    rcases bind_eq_error h with hrest | ⟨rest, -, h⟩
    · obtain ⟨x, hx, hvalue⟩ := ih hrest
      exact ⟨x, List.mem_cons_of_mem _ hx, hvalue⟩
    · cases h

/-- What keeps a dictionary out of a document keeps one of its values out. -/
theorem toJson_dict_eq_error {es : List (Text × Data)} {f : JsonFault}
    (h : (Data.dict (textEntries es)).toJson = .error f) : ∃ e ∈ es, e.2.toJson = .error f := by
  rw [toJson, toJsonEntries_textEntries, sortByKey_textEntries] at h
  generalize hs : Json.sortEntries (es.map fun e => (e.1, e.2.toJson)) = s at h
  rcases hentries : documentEntries (textEntries s) with f' | out
  · simp only [bind, Except.bind, hentries, Except.map] at h
    cases h
    obtain ⟨x, hx, hvalue⟩ := documentEntries_eq_error hentries
    subst hs
    obtain ⟨e, he, rfl⟩ := List.mem_map.mp ((List.mergeSort_perm _ _).mem_iff.mp hx)
    exact ⟨e, he, hvalue⟩
  · simp only [bind, Except.bind, hentries, Except.map] at h
    cases h

/-- A dictionary is a document when its values are. -/
theorem exists_toJson_dict {es : List (Text × Data)} (h : ∀ e ∈ es, ∃ v, e.2.toJson = .ok v) :
    ∃ j, (Data.dict (textEntries es)).toJson = .ok j := by
  cases hj : (Data.dict (textEntries es)).toJson with
  | ok j => exact ⟨j, rfl⟩
  | error f =>
    obtain ⟨e, he, herror⟩ := toJson_dict_eq_error hj
    obtain ⟨v, hv⟩ := h e he
    rw [hv] at herror
    cases herror

/-! ## What holds of documents -/

/-- What holds of the document that a value makes, where it makes one. -/
def Makes (P : Json → Prop) (d : Data) : Prop := ∀ j, d.toJson = .ok j → P j

section Makes

variable {P Q : Json → Prop}

theorem makes_text {t : Text} (ht : P (.text t)) : Makes P (.text t) := by
  intro j h
  cases h
  exact ht

theorem makes_int {n : Int} (hP : Number.fits n = true → P (.int n)) : Makes P (.int n) := by
  intro j h
  rw [toJson] at h
  split at h
  · next hn =>
    cases h
    exact hP hn
  · cases h

theorem makes_double {d : Double} (hP : d.isFinite = true → P (.double d)) :
    Makes P (.double d) := by
  intro j h
  rw [toJson] at h
  split at h
  · next hd =>
    cases h
    exact hP hd
  · cases h

theorem makes_list (hP : ∀ {js}, (∀ y ∈ js, Q y) → P (.list js)) {xs : List Data}
    (hxs : ∀ x ∈ xs, Makes Q x) : Makes P (.list xs) := by
  intro j h
  obtain ⟨js, hjs, rfl⟩ := map_eq_ok h
  refine hP fun y hy => ?_
  have hmem : Except.ok y ∈ xs.map toJson := by
    rw [toJsonItems_eq_ok hjs]
    exact List.mem_map_of_mem hy
  obtain ⟨x, hx, hxy⟩ := List.mem_map.mp hmem
  exact hxs x hx y hxy

/-- The fields of a document that a dictionary under distinct texts becomes. -/
theorem toJson_fields {es : List (Text × Data)} (hkeys : (es.map Prod.fst).Nodup) {j : Json}
    (h : (Data.dict (textEntries es)).toJson = .ok j) :
    ∃ out, j = .dict out ∧ (out.map Prod.fst).Perm (es.map Prod.fst) ∧
      (out.map Prod.fst).Nodup ∧
      (∀ o ∈ out, ∃ e ∈ es, e.1 = o.1 ∧ e.2.toJson = .ok o.2) ∧
      ∀ e ∈ es, ∃ v, e.2.toJson = .ok v ∧ (e.1, v) ∈ out := by
  obtain ⟨out, rfl, hperm⟩ := toJson_dict_perm h
  have hnames : (out.map Prod.fst).Perm (es.map Prod.fst) := by
    have := hperm.map Prod.fst
    rwa [List.map_map, List.map_map] at this
  refine ⟨out, rfl, hnames, hnames.nodup_iff.mpr hkeys, fun o ho => ?_, fun e he => ?_⟩
  · have hmem := hperm.mem_iff.mp (List.mem_map_of_mem ho)
    obtain ⟨e, he, heo⟩ := List.mem_map.mp hmem
    exact ⟨e, he, (Prod.mk.inj heo).1, (Prod.mk.inj heo).2⟩
  · have hmem := hperm.mem_iff.mpr (List.mem_map_of_mem he)
    obtain ⟨o, ho, hoe⟩ := List.mem_map.mp hmem
    obtain ⟨hname, hvalue⟩ := Prod.mk.inj hoe
    exact ⟨o.2, hvalue.symm, hname ▸ ho⟩

theorem makes_dict {es : List (Text × Data)}
    (hP : ∀ {out}, (out.map Prod.fst).Nodup → (∀ o ∈ out, o.1 ∈ es.map Prod.fst ∧ Q o.2) →
      P (.dict out))
    (hkeys : (es.map Prod.fst).Nodup) (hes : ∀ e ∈ es, Makes Q e.2) :
    Makes P (.dict (textEntries es)) := by
  intro j h
  obtain ⟨out, rfl, -, hnodup, hvalues, -⟩ := toJson_fields hkeys h
  refine hP hnodup fun o ho => ?_
  obtain ⟨e, he, hname, hv⟩ := hvalues o ho
  exact ⟨hname ▸ List.mem_map_of_mem he, hes e he o.2 hv⟩

end Makes

end Data

/-! ## Levels -/

namespace Json

/-- The document has at most so many lists and dictionaries within one another. -/
abbrev Within (k : Nat) (j : Json) : Prop := depth j ≤ k

theorem within_list {k : Nat} {xs : List Json} (h : ∀ x ∈ xs, Within k x) :
    Within (k + 1) (.list xs) := by
  have hitems : depthItems xs ≤ k := by
    induction xs with
    | nil => exact Nat.zero_le k
    | cons x xs ih =>
      rw [List.forall_mem_cons] at h
      exact Nat.max_le.mpr ⟨h.1, ih h.2⟩
  exact Nat.succ_le_succ hitems

theorem within_dict {k : Nat} {es : List (Text × Json)} (h : ∀ e ∈ es, Within k e.2) :
    Within (k + 1) (.dict es) := by
  have hentries : depthEntries es ≤ k := by
    induction es with
    | nil => exact Nat.zero_le k
    | cons e es ih =>
      rw [List.forall_mem_cons] at h
      exact Nat.max_le.mpr ⟨h.1, ih h.2⟩
  exact Nat.succ_le_succ hentries

end Json

/-! ## Octets -/

namespace Json

/-- Octets that start as a dictionary does are taken for UTF-8. -/
theorem detect_brace {b : UInt8} {r : Bytes} (hb : b ≠ 0) :
    Encoding.detect (0x7B :: b :: r) = (.eight, 0x7B :: b :: r) := by
  have hbrace : (0x7B : UInt8) ≠ 0 := by decide
  rcases r with _ | ⟨c, _ | ⟨d, r⟩⟩
  · have hpair : Encoding.detect [0x7B, b] =
        if (0x7B : UInt8) = 0 then (.sixteen .big, [0x7B, b])
        else if b = 0 then (.sixteen .little, [0x7B, b])
        else (.eight, [0x7B, b]) := rfl
    rw [hpair, if_neg hbrace, if_neg hb]
  · rfl
  · have hlong : Encoding.detect (0x7B :: b :: c :: d :: r) =
        if (0x7B : UInt8) = 0 then
          (if b = 0 then .thirtyTwo .big else .sixteen .big, 0x7B :: b :: c :: d :: r)
        else if b = 0 then
          (if c = 0 ∧ d = 0 then .thirtyTwo .little else .sixteen .little, 0x7B :: b :: c :: d :: r)
        else (.eight, 0x7B :: b :: c :: d :: r) := rfl
    rw [hlong, if_neg hbrace, if_neg hb]

/-- A dictionary is read from its octets as it is from its text. -/
theorem readBytes_encode (room : Room) {c : Nat} {r : Text} (hc : 0 < c ∧ c < 128)
    (ht : Text.Scalar (0x7B :: c :: r)) :
    readBytes (Text.Utf8.encode (0x7B :: c :: r)) room =
      (readWhole (0x7B :: c :: r) room).mapError .read := by
  have hoctets : Text.Utf8.encode (0x7B :: c :: r) =
      0x7B :: UInt8.ofNat c :: Text.Utf8.encode r := by
    simp [Text.Utf8.encode, Text.Utf8.encodePoint, hc.2]
  have hne : UInt8.ofNat c ≠ 0 := by
    intro h
    have hval := congrArg UInt8.toNat h
    rw [Text.Utf8.octet_toNat (by omega)] at hval
    exact absurd hval (by simp; omega)
  have hdecode := Text.Utf8.decode_of_scalar ht true
  rw [hoctets] at hdecode
  rw [hoctets, readBytes, detect_brace hne]
  simp only [Encoding.decode?, hdecode]
  rfl

end Json

end ProofLedger
