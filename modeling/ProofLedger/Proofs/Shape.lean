import ProofLedger.Proofs.Data.Entries
import ProofLedger.Proofs.Record.RoundTrip
import ProofLedger.Shape

/-!
# What a shape asks for

`ProofShape.check_eq_ok_iff`: the check passes exactly the lists of objects that a shape fits:
as many objects as asked for, every required tag as often as asked for, and one datum for each
uniform tag.

Of objects that do not fit it tells the first thing that is wrong: `FirstMismatch` says which that
is, and `firstMismatch_of_check` that it is the one told. `deviant?_none_eq` is the part about
uniform tags, by induction on the objects: the datum to compare with is that of the tag's first
object, although the search carries it along.

In another order the objects fit or fail alike (`check_perm`); only the index that is told with an
inconsistency may be another.
-/

namespace ProofLedger.ProofShape

/-! ## Fitting -/

/-- As many objects as the shape asks for, where it asks for a number. -/
def HasTotal (s : ProofShape) (objects : List ProofObject) : Prop :=
  ∀ n ∈ s.totalObjects, n = objects.length

/-- Every required tag as often as it is asked for. -/
def HasCounts (s : ProofShape) (objects : List ProofObject) : Prop :=
  ∀ e ∈ s.requiredTags, (countTag objects e.1 : Int) = e.2

/-- All objects of a tag carry one datum. -/
def Uniform (objects : List ProofObject) (tag : Text) : Prop :=
  ∀ o ∈ objects, ∀ o' ∈ objects, o.tag.val = tag → o'.tag.val = tag → o.data.val = o'.data.val

/-- The objects are what a shape asks for. -/
structure Fits (s : ProofShape) (objects : List ProofObject) : Prop where
  total : s.HasTotal objects
  counts : s.HasCounts objects
  uniform : ∀ tag ∈ s.uniformTags, Uniform objects tag

/-- The object at an index is the first of its tag whose datum is not that of the very first of
them. -/
def FirstDeviant (objects : List ProofObject) (tag : Text) (index : Nat) : Prop :=
  ∃ first o, objects.find? (·.tag.val == tag) = some first ∧
    objects[index]? = some o ∧ o.tag.val = tag ∧ o.data.val ≠ first.data.val ∧
    ∀ k < index, ∀ x, objects[k]? = some x → x.tag.val = tag → x.data.val = first.data.val

/-- What is told of objects that do not fit: their number if it is wrong; else, if any count is
wrong, the least tag with a wrong count; else the first uniform tag that is not uniform, with its
first deviant. -/
inductive FirstMismatch (s : ProofShape) (objects : List ProofObject) : ShapeMismatch → Prop
  | cardinality {expected : Nat} (asked : s.totalObjects = some expected)
      (wrong : expected ≠ objects.length) :
      FirstMismatch s objects (.cardinality expected objects.length)
  | tagCount {tag : Text} {expected : Int} (total : s.HasTotal objects)
      (required : (tag, expected) ∈ s.requiredTags)
      (wrong : (countTag objects tag : Int) ≠ expected)
      (least : ∀ e ∈ s.requiredTags, (countTag objects e.1 : Int) ≠ e.2 → ¬ e.1 < tag) :
      FirstMismatch s objects (.tagCount tag expected (countTag objects tag))
  | inconsistent {earlier later : List Text} {tag : Text} {index : Nat}
      (total : s.HasTotal objects) (counts : s.HasCounts objects)
      (listed : s.uniformTags = earlier ++ tag :: later)
      (uniform : ∀ t ∈ earlier, Uniform objects t) (deviant : FirstDeviant objects tag index) :
      FirstMismatch s objects (.inconsistent tag index)

/-! ## Totals and counts -/

theorem filter_totalObjects (s : ProofShape) (objects : List ProofObject) :
    s.totalObjects.filter (· ≠ objects.length) = none ↔ s.HasTotal objects := by
  simp [HasTotal, Option.filter_eq_none_iff]

theorem countMismatch?_eq_none_iff (objects : List ProofObject) (tags : List (Text × Int)) :
    countMismatch? objects tags = none ↔ ∀ e ∈ tags, (countTag objects e.1 : Int) = e.2 := by
  simp only [countMismatch?, Option.map_eq_none_iff, List.find?_eq_none, bne_iff_ne, ne_eq,
    Decidable.not_not]

theorem mem_sortedTags (s : ProofShape) (e : Text × Int) :
    e ∈ s.sortedTags ↔ e ∈ s.requiredTags := (List.mergeSort_perm _ _).mem_iff

/-- Of the tags with a wrong count the least is told. -/
theorem least_of_countMismatch? {s : ProofShape} {objects : List ProofObject} {m : ShapeMismatch}
    (h : countMismatch? objects s.sortedTags = some m) :
    ∃ e ∈ s.requiredTags, m = .tagCount e.1 e.2 (countTag objects e.1) ∧
      (countTag objects e.1 : Int) ≠ e.2 ∧
      ∀ x ∈ s.requiredTags, (countTag objects x.1 : Int) ≠ x.2 → ¬ x.1 < e.1 := by
  obtain ⟨e, hfind, rfl⟩ := Option.map_eq_some_iff.mp h
  obtain ⟨hwrong, earlier, later, hsorted, hright⟩ := List.find?_eq_some_iff_append.mp hfind
  have hmem : e ∈ s.requiredTags :=
    (mem_sortedTags s e).mp (List.mem_of_find?_eq_some hfind)
  refine ⟨e, hmem, rfl, bne_iff_ne.mp hwrong, fun x hx hxwrong => ?_⟩
  have horder : s.sortedTags.Pairwise fun a b => ¬ b.1 < a.1 :=
    Json.pairwise_sortEntries s.requiredTags
  rw [← mem_sortedTags, hsorted] at hx
  rw [hsorted] at horder
  rcases List.mem_append.mp hx with hx | hx
  · -- a tag before the one that was found has the count that is asked for
    have hcount := hright x hx
    simp [hxwrong] at hcount
  · rcases List.mem_cons.mp hx with rfl | hx
    · exact List.lt_irrefl x.1
    · exact (List.pairwise_cons.mp (List.pairwise_append.mp horder).2.1).1 x hx

/-! ## Uniform tags -/

/-- Whether an object carries a tag with another datum. -/
def deviates (tag data : Text) (o : ProofObject) : Bool :=
  o.tag.val == tag && o.data.val != data

/-- Once a datum has been seen, the search goes on to the first object that deviates from it. -/
theorem deviant?_some_eq (tag data : Text) (objects : List ProofObject) (index : Nat) :
    deviant? tag (some data) index objects =
      (objects.findIdx? (deviates tag data)).map (· + index) := by
  induction objects generalizing index with
  | nil => rfl
  | cons o r ih =>
    have hnext (i : Nat) : i + (index + 1) = i + 1 + index := by omega
    rw [deviant?, List.findIdx?_cons]
    split
    · next htag => simp [deviates, htag, ih, Function.comp_def, hnext]
    · next htag =>
      rw [Decidable.not_not] at htag
      split
      · next hdata => simp [deviates, hdata, ih, Function.comp_def, hnext]
      · next hdata => simp [deviates, htag, hdata]

/-- The datum to compare with is that of the tag's first object. -/
theorem deviant?_none_eq (tag : Text) (objects : List ProofObject) (index : Nat) :
    deviant? tag none index objects = (objects.find? (·.tag.val == tag)).bind fun first =>
      (objects.findIdx? (deviates tag first.data.val)).map (· + index) := by
  induction objects generalizing index with
  | nil => rfl
  | cons o r ih =>
    have hnext (i : Nat) : i + (index + 1) = i + 1 + index := by omega
    rw [deviant?]
    split
    · next htag => simp [htag, ih, List.findIdx?_cons, deviates, Function.comp_def, hnext]
    · next htag =>
      rw [Decidable.not_not] at htag
      simp [htag, deviant?_some_eq, List.findIdx?_cons, deviates, Function.comp_def, hnext]

/-- No object deviates when all objects of the tag carry one datum. -/
theorem deviant?_eq_none_iff (tag : Text) (objects : List ProofObject) (index : Nat) :
    deviant? tag none index objects = none ↔ Uniform objects tag := by
  rw [deviant?_none_eq, Option.bind_eq_none_iff]
  simp only [Option.map_eq_none_iff, List.findIdx?_eq_none_iff, deviates, Bool.and_eq_false_imp,
    beq_iff_eq, bne_eq_false_iff_eq]
  constructor
  · intro h x hx y hy hxtag hytag
    cases hfind : objects.find? (·.tag.val == tag) with
    | none => exact absurd hxtag (by simpa using List.find?_eq_none.mp hfind x hx)
    | some first => rw [h first hfind x hx hxtag, h first hfind y hy hytag]
  · intro h first hfind x hx hxtag
    have hfirst : first.tag.val = tag := by simpa using List.find?_some hfind
    exact h x hx first (List.mem_of_find?_eq_some hfind) hxtag hfirst

theorem firstDeviant_of_deviant? {tag : Text} {objects : List ProofObject} {index : Nat}
    (h : deviant? tag none 0 objects = some index) : FirstDeviant objects tag index := by
  rw [deviant?_none_eq] at h
  obtain ⟨first, hfirst, h⟩ := Option.bind_eq_some_iff.mp h
  obtain ⟨i, hindex, rfl⟩ := Option.map_eq_some_iff.mp h
  obtain ⟨hlt, hdeviates, hearlier⟩ := List.findIdx?_eq_some_iff_getElem.mp hindex
  simp only [deviates, Bool.and_eq_true, beq_iff_eq, bne_iff_ne] at hdeviates hearlier
  refine ⟨first, objects[i], hfirst, List.getElem?_eq_getElem hlt, hdeviates.1, hdeviates.2, ?_⟩
  intro k hk x hx htag
  obtain ⟨hk', rfl⟩ := List.getElem?_eq_some_iff.mp hx
  by_contra hdata
  exact hearlier k hk ⟨htag, hdata⟩

theorem inconsistency?_eq_none_iff (objects : List ProofObject) (tags : List Text) :
    inconsistency? objects tags = none ↔ ∀ tag ∈ tags, Uniform objects tag := by
  simp only [inconsistency?, List.findSome?_eq_none_iff, Option.map_eq_none_iff,
    deviant?_eq_none_iff]

/-- Of the tags that are not uniform the first is told. -/
theorem first_of_inconsistency? {objects : List ProofObject} {tags : List Text}
    {m : ShapeMismatch} (h : inconsistency? objects tags = some m) :
    ∃ earlier tag later index, tags = earlier ++ tag :: later ∧ m = .inconsistent tag index ∧
      (∀ t ∈ earlier, Uniform objects t) ∧ FirstDeviant objects tag index := by
  obtain ⟨earlier, tag, later, htags, hfound, hearlier⟩ := List.findSome?_eq_some_iff.mp h
  obtain ⟨index, hdeviant, rfl⟩ := Option.map_eq_some_iff.mp hfound
  refine ⟨earlier, tag, later, index, htags, rfl, fun t ht => ?_,
    firstDeviant_of_deviant? hdeviant⟩
  exact (deviant?_eq_none_iff t objects 0).mp (Option.map_eq_none_iff.mp (hearlier t ht))

/-! ## The check -/

/-- The check passes what the shape fits, and nothing else. -/
theorem check_eq_ok_iff (s : ProofShape) (objects : List ProofObject) :
    s.check objects = .ok () ↔ s.Fits objects := by
  have htotal := filter_totalObjects s objects
  have hcounts := countMismatch?_eq_none_iff objects s.sortedTags
  have huniform := inconsistency?_eq_none_iff objects s.uniformTags
  simp only [mem_sortedTags] at hcounts
  unfold check
  constructor
  · intro h
    split at h
    · cases h
    · next hlength =>
      split at h
      · cases h
      · next hcount =>
        split at h
        · cases h
        · next hsame => exact ⟨htotal.mp hlength, hcounts.mp hcount, huniform.mp hsame⟩
  · intro h
    rw [htotal.mpr h.total]
    simp only [hcounts.mpr h.counts, huniform.mpr h.uniform]

/-- What the check tells is the first thing that is wrong. -/
theorem firstMismatch_of_check {s : ProofShape} {objects : List ProofObject} {m : ShapeMismatch}
    (h : s.check objects = .error m) : s.FirstMismatch objects m := by
  have hcounts := countMismatch?_eq_none_iff objects s.sortedTags
  simp only [mem_sortedTags] at hcounts
  unfold check at h
  split at h
  · next hlength =>
    obtain ⟨hasked, hwrong⟩ := Option.filter_eq_some_iff.mp hlength
    cases h
    exact .cardinality hasked (of_decide_eq_true hwrong)
  · next hlength =>
    have htotal := (filter_totalObjects s objects).mp hlength
    split at h
    · next hcount =>
      obtain ⟨⟨tag, expected⟩, hmem, rfl, hwrong, hleast⟩ := least_of_countMismatch? hcount
      cases h
      exact .tagCount htotal hmem hwrong hleast
    · next hcount =>
      split at h
      · next hsame =>
        obtain ⟨_, _, _, _, hlisted, rfl, huniform, hdeviant⟩ := first_of_inconsistency? hsame
        cases h
        exact .inconsistent htotal (hcounts.mp hcount) hlisted huniform hdeviant
      · cases h

/-! ## Numbers that can be shown -/

/-- Every number that the shape asks for fits a numeral. -/
structure Showable (s : ProofShape) : Prop where
  total : ∀ n ∈ s.totalObjects, Number.fits n = true
  counts : ∀ e ∈ s.requiredTags, Number.fits e.2 = true

/-- Numbers of up to a hundred digits can be shown. -/
theorem showable_of_lt {s : ProofShape} (total : ∀ n ∈ s.totalObjects, n < 10 ^ 100)
    (counts : ∀ e ∈ s.requiredTags, ∃ n : Nat, e.2 = n ∧ n < 10 ^ 100) : s.Showable where
  total n hn := ProofRecord.fits_of_lt (total n hn)
  counts e he := by
    obtain ⟨n, heq, hlt⟩ := counts e he
    rw [heq]
    exact ProofRecord.fits_of_lt hlt

theorem FirstMismatch.isShowable {s : ProofShape} {objects : List ProofObject} {m : ShapeMismatch}
    (h : s.FirstMismatch objects m) (hs : s.Showable) : m.isShowable = true := by
  cases h with
  | cardinality asked wrong => simpa only [ShapeMismatch.isShowable] using hs.total _ asked
  | tagCount total required wrong least =>
    simpa only [ShapeMismatch.isShowable] using hs.counts _ required
  | inconsistent total counts listed uniform deviant => rfl

/-! ## Another order of the objects -/

section Order

variable {objects objects' : List ProofObject} (h : objects.Perm objects')
include h

theorem countTag_perm (tag : Text) : countTag objects tag = countTag objects' tag := h.countP_eq _

theorem uniform_perm (tag : Text) : Uniform objects tag ↔ Uniform objects' tag := by
  simp only [Uniform, h.mem_iff]

/-- Objects in another order fit, or the same is wrong with them, but for the index of a
deviant. -/
theorem check_perm (s : ProofShape) : s.check objects = s.check objects' ∨
    ∃ tag tag' index index', s.check objects = .error (.inconsistent tag index) ∧
      s.check objects' = .error (.inconsistent tag' index') := by
  have hcounts : countMismatch? objects s.sortedTags = countMismatch? objects' s.sortedTags := by
    simp only [countMismatch?, countTag_perm h]
  have hnone : inconsistency? objects s.uniformTags = none ↔
      inconsistency? objects' s.uniformTags = none := by
    simp only [inconsistency?_eq_none_iff, uniform_perm h]
  unfold check
  rw [← h.length_eq, ← hcounts]
  split
  · exact .inl rfl
  · split
    · exact .inl rfl
    · cases hsame : inconsistency? objects s.uniformTags with
      | none =>
        rw [hnone.mp hsame]
        exact .inl rfl
      | some m =>
        obtain ⟨m', hsame'⟩ := Option.ne_none_iff_exists'.mp
          (fun hnone' => Option.some_ne_none m (hsame.symm.trans (hnone.mpr hnone')))
        obtain ⟨_, tag, _, index, _, rfl, _⟩ := first_of_inconsistency? hsame
        obtain ⟨_, tag', _, index', _, rfl, _⟩ := first_of_inconsistency? hsame'
        rw [hsame']
        exact .inr ⟨tag, tag', index, index', rfl, rfl⟩

end Order

end ProofLedger.ProofShape
