import ProofLedger.Digest.File
import ProofLedger.Proofs.Digest.Canonical
import ProofLedger.Proofs.Record.RoundTrip
import ProofLedger.Proofs.Store.Names
import ProofLedger.Proofs.Text.Normal

/-!
# Digests of documents in files

`digestOfFile_eq`: a file that holds a value on one line, and a file that holds it in lines, have
one digest, that of the text on one line. Where the value has a canonical text to be hashed, and is
in normal form, that text is the same one.

What a value becomes is a document in which nothing is left to do (`Settled`): every dictionary is
in key order and nothing is lost in writing. So reading gives it back, whatever the layout, and
sorting it or making a document of it again changes nothing (`Settled.sorted_eq`,
`Settled.toJson_eq`).
-/

namespace ProofLedger

namespace Data

/-- The keys of a dictionary are texts, and none is there twice. -/
def NamedEntries : Data → Prop
  | .dict es => ∃ fs : List (Text × Data), es = textEntries fs ∧ (fs.map Prod.fst).Nodup
  | _ => True

/-- There is no double, and no text or key that normal form changes. -/
def Composed : Data → Prop
  | .double _ => False
  | .text t => t.nfc = t
  | .dict es => ∀ e ∈ es, e.1.normal = e.1
  | _ => True

/-! ## What a value becomes, part by part -/

theorem mem_parts_textEntries {fs : List (Text × Data)} {e : Text × Data} (he : e ∈ fs) :
    e.2 ∈ (Data.dict (textEntries fs)).parts := by
  rw [parts, textEntries, List.map_map]
  exact List.mem_map_of_mem (f := fun e : Text × Data => e.2) he

theorem forall₂_of_toJsonItems {xs : List Data} {js : List Json} (h : toJsonItems xs = .ok js) :
    List.Forall₂ (fun x j => x.toJson = .ok j) xs js := by
  have hmap := toJsonItems_eq_ok h
  rwa [← List.forall₂_eq_eq_eq, List.forall₂_map_left_iff, List.forall₂_map_right_iff] at hmap

/-- The entries of a document: those of the dictionary one by one, and then in key order. -/
theorem forall₂_of_toJson_dict {fs : List (Text × Data)} (hkeys : (fs.map Prod.fst).Nodup)
    {j : Json} (h : (Data.dict (textEntries fs)).toJson = .ok j) : ∃ os out, j = .dict out ∧
      List.Forall₂ (fun e o => e.1 = o.1 ∧ e.2.toJson = .ok o.2) fs os ∧ os.Perm out ∧
      out.Pairwise fun a b => a.1 < b.1 := by
  obtain ⟨out, rfl, hout⟩ := toJson_dict_eq_ok h
  have hperm : (fs.map fun e => (e.1, e.2.toJson)).Perm (out.map fun o => (o.1, .ok o.2)) :=
    hout ▸ (List.mergeSort_perm _ _).symm
  have hpaired : List.Forall₂ (fun x o => x = (o.1, Except.ok o.2))
      (out.map fun o => (o.1, (.ok o.2 : Except JsonFault Json))) out :=
    List.forall₂_map_left_iff.mpr (List.forall₂_same.mpr fun _ _ => rfl)
  obtain ⟨os, hos, hosout⟩ := List.perm_comp_forall₂ hperm hpaired
  refine ⟨os, out, rfl, ?_, hosout, ?_⟩
  · exact (List.forall₂_map_left_iff.mp hos).imp fun e o he => Prod.mk.inj he
  · have hkeys : ((fs.map fun e => (e.1, e.2.toJson)).map Prod.fst).Nodup := by
      rwa [List.map_map]
    have hascending := Json.ascending_sortEntries hkeys
    rw [← hout, List.pairwise_map] at hascending
    exact hascending

end Data

/-! ## Documents in which nothing is left to do -/

namespace Json

/-- Every dictionary is in key order, and every number can be written. -/
inductive Settled : Json → Prop
  | null : Settled .null
  | bool (b : Bool) : Settled (.bool b)
  | int {n : Int} (written : Number.fits n = true) : Settled (.int n)
  | double {d : Double} (written : d.isFinite = true) : Settled (.double d)
  | text (t : Text) : Settled (.text t)
  | list {xs : List Json} (items : ∀ x ∈ xs, Settled x) : Settled (.list xs)
  | dict {es : List (Text × Json)} (ascending : es.Pairwise fun a b => a.1 < b.1)
      (values : ∀ e ∈ es, Settled e.2) : Settled (.dict es)

theorem sortedItems_eq_map (xs : List Json) : sortedItems xs = xs.map sorted := by
  induction xs with
  | nil => rfl
  | cons x xs ih => rw [sortedItems, ih, List.map_cons]

theorem sortedEntries_eq_map (es : List (Text × Json)) :
    sortedEntries es = es.map fun e => (e.1, e.2.sorted) := by
  induction es with
  | nil => rfl
  | cons e es ih => rw [sortedEntries, ih, List.map_cons]

section Settled

variable {j : Json} (h : Settled j)
include h

theorem Settled.faithful : j.Faithful := by
  induction h with
  | int written | double written => exact written
  | list _ ih => exact faithfulItems_of_forall ih
  | dict ascending _ ih => exact ⟨nodup_keys_of_ascending ascending, faithfulEntries_of_forall ih⟩
  | _ => trivial

theorem Settled.fits_eq : j.fits = true := by
  induction h with
  | int written => exact written
  | list _ ih => exact fitsItems_iff.mpr ih
  | dict _ _ ih => exact fitsEntries_iff.mpr ih
  | _ => rfl

/-- Sorting changes nothing. -/
theorem Settled.sorted_eq : j.sorted = j := by
  induction h with
  | list _ ih => rw [sorted, sortedItems_eq_map, List.map_congr_left ih, List.map_id']
  | @dict es ascending _ ih =>
    have hsame : es.map (fun e => (e.1, e.2.sorted)) = es := by
      rw [List.map_congr_left fun e he => by rw [ih e he], List.map_id']
    rw [sorted, sortedEntries_eq_map, hsame, sortEntries_eq_of_perm (.refl _) ascending]
  | _ => rfl

/-- Making a document of it changes nothing. -/
theorem Settled.toJson_eq : j.toData.toJson = .ok j := by
  induction h with
  | int written => rw [toData, Data.toJson, if_pos written]
  | double written => rw [toData, Data.toJson, if_pos written]
  | @list xs _ ih =>
    have hitems : Data.toJsonItems (toDataItems xs) = .ok xs := by
      have hmap := Data.toJsonItems_map ih
      rwa [List.map_id', ← toDataItems_eq] at hmap
    rw [toData, Data.toJson, hitems]
    rfl
  | @dict es ascending _ ih =>
    have hvalues : es.map (fun e => (e.1, e.2.toData.toJson)) = es.map fun e => (e.1, .ok e.2) :=
      List.map_congr_left fun e he => by rw [ih e he]
    have hsorted : sortEntries (es.map fun e => (e.1, (.ok e.2 : Except JsonFault Json))) =
        es.map fun e => (e.1, .ok e.2) :=
      sortEntries_eq_of_perm (.refl _) (List.pairwise_map.mpr ascending)
    rw [toData, toDataEntries_eq, Data.toJson, Data.toJsonEntries_textEntries, List.map_map]
    simp only [Function.comp_def, hvalues, sortByKey_textEntries, hsorted, bind, Except.bind,
      Data.documentEntries_map]
    rfl
  | _ => rfl

end Settled

end Json

namespace Data

/-- What a value becomes is settled. -/
theorem settled_of_toJson {d : Data} (hd : d.Everywhere NamedEntries) {j : Json}
    (h : d.toJson = .ok j) : j.Settled := by
  induction d using induction_parts generalizing j with
  | step d ih =>
    have hpart : ∀ p ∈ d.parts, ∀ j, p.toJson = .ok j → j.Settled :=
      fun p hp j => ih p hp (hd.part hp)
    have hitems : ∀ {xs : List Data} {js : List Json}, (∀ x ∈ xs, x ∈ d.parts) →
        toJsonItems xs = .ok js → (Json.list js).Settled := by
      intro xs js hxs hjs
      refine .list fun y hy => ?_
      obtain ⟨x, hx, hxy⟩ := exists_of_forall₂ (forall₂_of_toJsonItems hjs) hy
      exact hpart x (hxs x hx) y hxy
    cases d with
    | null | bool | text =>
      cases h
      constructor
    | int n => exact makes_int (P := Json.Settled) .int _ h
    | double x => exact makes_double (P := Json.Settled) .double _ h
    | bytes | other => cases h
    | list xs | tuple xs =>
      obtain ⟨js, hjs, rfl⟩ := map_eq_ok h
      exact hitems (fun _ => id) hjs
    | dict es =>
      obtain ⟨fs, rfl, hkeys⟩ := hd.here
      obtain ⟨os, out, rfl, hos, hperm, hascending⟩ := forall₂_of_toJson_dict hkeys h
      refine .dict hascending fun o ho => ?_
      obtain ⟨e, he, -, hvalue⟩ := exists_of_forall₂ hos (hperm.mem_iff.mpr ho)
      exact hpart e.2 (mem_parts_textEntries he) o.2 hvalue

/-! ## The canonical text -/

/-- The canonical document of a value in normal form is the document that it becomes. -/
theorem canonicalAt_eq_of_toJson {d : Data} (hd : d.Everywhere NamedEntries)
    (hcomposed : d.Everywhere Composed) {j : Json} (h : d.toJson = .ok j) (path : Text) :
    d.canonicalAt path = .ok j := by
  induction d using induction_parts generalizing j path with
  | step d ih =>
    have hpart : ∀ p ∈ d.parts, ∀ j, p.toJson = .ok j → ∀ path, p.canonicalAt path = .ok j :=
      fun p hp j hj path => ih p hp (hd.part hp) (hcomposed.part hp) hj path
    cases d with
    | null | bool =>
      cases h
      rfl
    | text t =>
      cases h
      rw [canonicalAt, show t.nfc = t from hcomposed.here]
    | int n =>
      exact makes_int (P := fun j => (Data.int n).canonicalAt path = .ok j) (fun _ => rfl) _ h
    | double => exact hcomposed.here.elim
    | bytes | other => cases h
    | list xs | tuple xs =>
      obtain ⟨js, hjs, rfl⟩ := map_eq_ok h
      have hitems := canonicalItems_of_forall₂ (forall₂_imp_mem (forall₂_of_toJsonItems hjs) hpart)
      rw [canonicalAt, hitems]
      rfl
    | dict es =>
      obtain ⟨fs, rfl, hkeys⟩ := hd.here
      obtain ⟨os, out, rfl, hos, hperm, hascending⟩ := forall₂_of_toJson_dict hkeys h
      have hnormal : ∀ o ∈ out, o.1.nfc = o.1 := by
        intro o ho
        obtain ⟨e, he, hname, -⟩ := exists_of_forall₂ hos (hperm.mem_iff.mpr ho)
        have hkey := hcomposed.here (.text e.1, e.2) (List.mem_map_of_mem he)
        exact hname ▸ Key.text.inj hkey
      have hvalues : List.Forall₂ (fun e o => e.1 = o.1 ∧
          ∀ path, e.2.canonicalAt path = .ok o.2) fs os :=
        forall₂_imp_mem hos fun e he o ho =>
          ⟨ho.1, hpart e.2 (mem_parts_textEntries he) o.2 ho.2⟩
      have hfields := canonicalFields_of_forall₂ hvalues path
      rw [canonicalAt, hfields]
      exact congrArg (fun es => Except.ok (Json.dict es))
        (canonicalEntries_eq_of_perm hperm hascending hnormal)

end Data

/-! ## Files -/

/-- The digest of a file is that of the text on one line, when the file holds the document without
carriage returns. -/
theorem digestOfFile_octets {j : Json} (hj : j.Settled) {t : Text} (hread : Json.read t = .ok j)
    (hplain : 13 ∉ t) {content octets : Bytes} (ht : t.octets = .ok content)
    (hoctets : j.compact.octets = .ok octets) :
    digestOfFile content = .ok (Sha256.hex octets) := by
  obtain ⟨hscalar, rfl⟩ := Text.octets_eq_ok_iff.mp ht
  have htext : Directory.readText (Text.Utf8.encode t) = .ok t :=
    Directory.readText_octets hscalar hplain
  have hdigest : documentDigest t = .ok (.ok (Sha256.hex octets)) := by
    rw [documentDigest, hread]
    simp only [Except.map, hj.sorted_eq, sha256OfText, hoctets]
  rw [digestOfFile, htext]
  simp only [bind, Except.bind, hdigest, mapError_ok]

/-- A value on one line and in lines has one digest as a file, that of the text on one line; both
texts are read as the document that was written, which becomes itself again. A value in normal form
that has no double has this text for its canonical text. -/
theorem digestOfFile_eq {d : Data} (hd : d.Everywhere Data.NamedEntries) {j : Json}
    (hj : d.toJson = .ok j) {content : Bytes} (hcontent : j.compact.octets = .ok content) :
    sha256OfText j.compact = .ok (Sha256.hex content) ∧
      (∃ lines, j.pretty.octets = .ok lines ∧
        digestOfFile content = .ok (Sha256.hex content) ∧
        digestOfFile lines = .ok (Sha256.hex content)) ∧
      (Json.read j.compact = .ok j ∧ Json.read j.pretty = .ok j ∧ j.toData.toJson = .ok j) ∧
      (d.Everywhere Data.Composed → d.canonicalText = .ok j.compact) := by
  have hsettled := Data.settled_of_toJson hd hj
  have hcompact := Json.read_compact hsettled.faithful (Json.Room.holds_none _)
  have hpretty := Json.read_pretty hsettled.faithful (Json.Room.holds_none _)
  obtain ⟨hscalar, -⟩ := Text.octets_eq_ok_iff.mp hcontent
  have hlines : j.pretty.octets = .ok (Text.Utf8.encode j.pretty) :=
    Text.octets_eq_ok_iff.mpr ⟨Json.scalar_pretty_of_compact hscalar, rfl⟩
  refine ⟨by rw [sha256OfText, hcontent]; rfl, ⟨_, hlines, ?_, ?_⟩,
    ⟨hcompact, hpretty, hsettled.toJson_eq⟩, fun hcomposed => ?_⟩
  · exact digestOfFile_octets hsettled hcompact (Json.carriageReturn_not_mem_compact j) hcontent
      hcontent
  · exact digestOfFile_octets hsettled hpretty (Json.carriageReturn_not_mem_pretty j) hlines
      hcontent
  · exact Data.canonicalText_eq_ok_iff.mpr
      ⟨j, Data.canonicalAt_eq_of_toJson hd hcomposed hj [], hsettled.fits_eq, rfl⟩

/-! ## A value with letters -/

/-- Entries out of order, a letter outside ASCII and a line end. -/
def Data.letters : Data :=
  .dict (textEntries [("b", .list [.text [0xE9], .text [13, 10]]), ("a", .int 3)])

theorem Data.everywhere_letters {P : Data → Prop} (hdict : P letters)
    (hlist : P (.list [.text [0xE9], .text [13, 10]]))
    (htexts : P (.text [0xE9]) ∧ P (.text [13, 10])) (hint : P (.int 3)) :
    letters.Everywhere P := by
  have hatom : ∀ d : Data, d.parts = [] → P d → d.Everywhere P :=
    fun d hparts hd => .intro hd fun p hp => nomatch (hparts ▸ hp : p ∈ [])
  refine .intro hdict fun p hp => ?_
  simp only [letters, parts, textEntries, List.map_cons, List.map_nil, List.mem_cons,
    List.not_mem_nil, or_false] at hp
  rcases hp with rfl | rfl
  · refine .intro hlist fun p hp => ?_
    simp only [parts, List.mem_cons, List.not_mem_nil, or_false] at hp
    rcases hp with rfl | rfl
    · exact hatom _ rfl htexts.1
    · exact hatom _ rfl htexts.2
  · exact hatom _ rfl hint

/-- Its document in key order. -/
def Json.letters : Json := .dict [("a", .int 3), ("b", .list [.text [0xE9], .text [13, 10]])]

theorem Data.toJson_letters : letters.toJson = .ok Json.letters := by
  have hfits : Number.fits 3 = true := ProofRecord.fits_of_lt (n := 3) (by decide)
  have hint : (Data.int 3).toJson = .ok (.int 3) := by rw [toJson, if_pos hfits]
  have hsorted (x y : Except JsonFault Json) :
      Json.sortEntries [(("b" : Text), x), (("a" : Text), y)] =
        [(("a" : Text), y), (("b" : Text), x)] :=
    Json.sortEntries_eq_of_perm (.swap ..) (by simp; decide)
  rw [letters, toJson, toJsonEntries_textEntries, sortByKey_textEntries, List.map_cons,
    List.map_cons, List.map_nil, hsorted, hint]
  rfl

theorem Json.scalar_letters : letters.compact.Scalar := by
  have htexts : ∀ t ∈ [[97], [98], [0xE9], [13, 10]], ∀ c ∈ t, Text.isScalar c = true := by decide
  refine scalar_compact ⟨fun c hc _ => ?_, trivial, fun c hc _ => ?_, ⟨?_, ?_, trivial⟩, trivial⟩
  · exact htexts [97] (by decide) c hc
  · exact htexts [98] (by decide) c hc
  · exact fun c hc _ => htexts [0xE9] (by decide) c hc
  · exact fun c hc _ => htexts [13, 10] (by decide) c hc

theorem digestOfFile_eq_letters : ∃ content lines, Json.letters.compact.octets = .ok content ∧
    Json.letters.pretty.octets = .ok lines ∧ digestOfFile content = .ok (Sha256.hex content) ∧
    digestOfFile lines = .ok (Sha256.hex content) ∧
    Data.letters.canonicalText = .ok Json.letters.compact := by
  have hnamed : Data.letters.Everywhere Data.NamedEntries :=
    Data.everywhere_letters ⟨_, rfl, by decide⟩ trivial ⟨trivial, trivial⟩ trivial
  have hnormal : Text.nfc [0xE9] = [0xE9] ∧ Text.nfc [13, 10] = [13, 10] :=
    ⟨Text.nfc_of_small (by decide), Text.nfc_of_small (by decide)⟩
  have hcomposed : Data.letters.Everywhere Data.Composed := by
    refine Data.everywhere_letters (fun e he => ?_) trivial hnormal trivial
    simp only [textEntries, List.map_cons, List.map_nil, List.mem_cons, List.not_mem_nil,
      or_false] at he
    rcases he with rfl | rfl
    · exact congrArg Key.text (Text.nfc_of_small (by decide))
    · exact congrArg Key.text (Text.nfc_of_small (by decide))
  have hcontent : Json.letters.compact.octets = .ok (Text.Utf8.encode Json.letters.compact) :=
    Text.octets_eq_ok_iff.mpr ⟨Json.scalar_letters, rfl⟩
  obtain ⟨-, ⟨lines, hlines, honLine, hinLines⟩, -, hcanonical⟩ :=
    digestOfFile_eq hnamed Data.toJson_letters hcontent
  exact ⟨_, lines, hcontent, hlines, honLine, hinLines, hcanonical hcomposed⟩

end ProofLedger
