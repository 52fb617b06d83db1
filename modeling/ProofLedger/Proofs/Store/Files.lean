import ProofLedger.Proofs.Record.RoundTrip
import ProofLedger.Proofs.Store.Effects
import ProofLedger.Proofs.Store.Names

/-!
# Record files

The octets of a record's file are read back as that record, whatever else is in the directory:
`get_of_file` says when, and `Stores.get` that a record just stored is one of them. What is got
is still got when a record has become the baseline (`Promotes.get`). Two records with one name
have the same text only when they are the same record (`sameText_documentOctets`), so what counts
as stored already is what was stored.
-/

namespace ProofLedger.Directory

/-! ## Octets of a record -/

/-- The octets of a record are those of its document in lines. -/
theorem documentOctets_eq_ok {r : ProofRecord} {content : Bytes}
    (h : documentOctets r = .ok content) :
    ∃ j, r.document.toJson = .ok j ∧ j.pretty.Scalar ∧ content = octets j.pretty := by
  obtain ⟨t, ht, h⟩ := bind_eq_ok h
  obtain ⟨j, hj, rfl⟩ := map_eq_ok (mapError_eq_ok ht)
  obtain ⟨hscalar, rfl⟩ := Text.octets_eq_ok_iff.mp (mapError_eq_ok h)
  exact ⟨j, hj, hscalar, rfl⟩

theorem loadsBytes_documentOctets {r : ProofRecord} {content : Bytes} {room : Json.Room}
    (hroom : room.Holds ProofRecord.depth) (h : documentOctets r = .ok content) :
    ProofRecord.loadsBytes content room = .ok r := by
  obtain ⟨j, hj, hscalar, rfl⟩ := documentOctets_eq_ok h
  exact ProofRecord.loadsBytes_pretty hj hroom hscalar

/-- A file with the text of a record is that record's. -/
theorem sameText_documentOctets {r r' : ProofRecord} {content : Bytes}
    (h : documentOctets r' = .ok content) (hsame : sameText r content = .ok ()) : r = r' := by
  obtain ⟨j', hj', hscalar, rfl⟩ := documentOctets_eq_ok h
  have hread := readText_octets hscalar (Json.carriageReturn_not_mem_pretty j')
  obtain ⟨found, hfound, hsame⟩ := bind_eq_ok hsame
  rw [hread] at hfound
  cases hfound
  obtain ⟨t, ht, hsame⟩ := bind_eq_ok hsame
  obtain ⟨j, hj, rfl⟩ := map_eq_ok (mapError_eq_ok ht)
  split at hsame
  · next heq =>
    have hroom := Json.Room.holds_none ProofRecord.depth
    have hload := ProofRecord.loads_pretty hj hroom
    rw [← heq, ProofRecord.loads_pretty hj' hroom] at hload
    exact (Except.ok.inj hload).symm
  · cases hsame

/-- A record's own octets hold its text. -/
theorem sameText_self {r : ProofRecord} {content : Bytes} (h : documentOctets r = .ok content) :
    sameText r content = .ok () := by
  obtain ⟨j, hj, hscalar, rfl⟩ := documentOctets_eq_ok h
  have hread := readText_octets hscalar (Json.carriageReturn_not_mem_pretty j)
  have hdocument : document r = .ok j.pretty := by
    rw [document, ProofRecord.dumps, hj]
    rfl
  rw [sameText, hread]
  simp only [bind, Except.bind, hdocument, if_true]

/-- A record has octets when its duration is finite, its length fits a numeral and its texts are
made of scalar values. -/
theorem exists_documentOctets {r : ProofRecord} (hfinite : r.duration.val.isFinite = true)
    (hfits : Number.fits r.input.length = true) (htexts : ∀ t ∈ r.texts, t.Scalar) :
    ∃ content, documentOctets r = .ok content := by
  obtain ⟨t, ht⟩ := r.exists_dumps_iff.mpr ⟨hfinite, hfits⟩
  obtain ⟨j, hj, rfl⟩ := map_eq_ok ht
  have hoctets : j.pretty.octets = .ok (octets j.pretty) :=
    Text.octets_eq_ok_iff.mpr ⟨ProofRecord.scalar_document htexts hj, rfl⟩
  refine ⟨octets j.pretty, ?_⟩
  rw [documentOctets, document, ht]
  simp only [mapError_ok, bind, Except.bind, hoctets]

/-! ## Files by name -/

theorem file?_append_free {d d' : Directory} {id : Text} {content : Bytes}
    (hrecords : d'.records = d.records ++ [(id, content)]) (hfree : d.hasFile id = false) :
    d'.file? id = some content := by
  rw [hasFile, Option.isSome_eq_false_iff, Option.isNone_iff_eq_none, file?,
    Option.map_eq_none_iff] at hfree
  rw [file?, hrecords, List.find?_append, hfree]
  simp

/-- A record file that was there is there still when another has come. -/
theorem file?_append {d d' : Directory} {id id' : Text} {content content' : Bytes}
    (hrecords : d'.records = d.records ++ [(id', content')]) (h : d.file? id = some content) :
    d'.file? id = some content := by
  obtain ⟨e, he, rfl⟩ := Option.map_eq_some_iff.mp h
  rw [file?, hrecords, List.find?_append, he]
  rfl

/-- A record is got when its octets stand under its name. -/
theorem get_of_file {d : Directory} {r : ProofRecord} {content : Bytes}
    (hname : Identity.isStorable r.id.val = true) (hshort : isLongName r.id.val = false)
    (hfolder : d.site.isFolder (recordName r.id.val) = false)
    (hcontent : documentOctets r = .ok content) (hfile : d.file? r.id.val = some content) :
    d.get r.id.val = .ok r := by
  have hfound : d.content r.id.val = .ok content := by
    rw [Directory.content, checkName_eq_ok_iff.mpr hname, checkLength_eq_ok_iff.mpr hshort,
      Site.check_eq_ok_iff.mpr hfolder, hfile]
    rfl
  rw [get, hfound]
  simp only [bind, Except.bind, loadsBytes_documentOctets d.site.room_holds hcontent]
  rfl

/-- A record is got back once it is stored. -/
theorem Stores.get {d d' : Directory} {r : ProofRecord} (h : Stores r d d') :
    d'.get r.id.val = .ok r := by
  obtain ⟨content, hcontent, hadds⟩ := h.adds
  obtain ⟨hfile, hfolder⟩ := Bool.or_eq_false_iff.mp hadds.free
  refine get_of_file h.storable hadds.short ?_ hcontent (file?_append_free hadds.records hfile)
  rw [hadds.site]
  exact hfolder

/-- What is got stays while no record file goes. -/
theorem get_of_grows {d d' : Directory} {id : Text} {r : ProofRecord} (hsite : d'.site = d.site)
    (hfiles : ∀ content, d.file? id = some content → d'.file? id = some content)
    (h : d.get id = .ok r) : d'.get id = .ok r := by
  obtain ⟨content, hcontent, hload⟩ := bind_eq_ok h
  have hsame : d'.content id = .ok content := by
    obtain ⟨_, hname, hcontent⟩ := bind_eq_ok hcontent
    obtain ⟨_, hlength, hcontent⟩ := bind_eq_ok hcontent
    obtain ⟨_, hplace, hcontent⟩ := bind_eq_ok hcontent
    have hlength' : d'.checkLength id = .ok () :=
      checkLength_eq_ok_iff.mpr (checkLength_eq_ok_iff.mp hlength)
    cases hfile : d.file? id with
    | none =>
      rw [hfile] at hcontent
      cases hcontent
    | some found =>
      rw [hfile] at hcontent
      cases hcontent
      rw [Directory.content, hname, hlength', hsite, hplace, hfiles content hfile]
      rfl
  rw [Directory.get, hsame, hsite]
  exact hload

/-- Every record is still got when one has become the baseline. -/
theorem Promotes.get {d d' : Directory} {id : Text} {r r' : ProofRecord} (h : Promotes r d d')
    (hget : d.get id = .ok r') : d'.get id = .ok r' := by
  obtain ⟨-, d₁, hfiles, hpoints⟩ := h
  have hsame : d'.file? id = d₁.file? id := by rw [file?, hpoints.records, file?]
  rcases hfiles with hholds | hstores
  · refine get_of_grows (hpoints.site.trans hholds.keeps.site) (fun e he => ?_) hget
    rw [hsame, file?, hholds.keeps.records]
    exact he
  · obtain ⟨content, -, hadds⟩ := hstores.adds
    refine get_of_grows (hpoints.site.trans hadds.site) (fun e he => ?_) hget
    rw [hsame]
    exact file?_append hadds.records he

end ProofLedger.Directory
