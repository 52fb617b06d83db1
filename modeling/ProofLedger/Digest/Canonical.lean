import ProofLedger.Digest.Sha256
import ProofLedger.Json.Reader
import ProofLedger.Json.Printer
import ProofLedger.Text.Normal.Basic

/-!
# Canonical text

Two values that mean the same have one canonical text: every string and
key is in composed normal form, entries are in key order, tuples are
lists, and there are no blanks. Doubles have no place in it, since their
text is a matter of taste. `canonicalJson` builds the document,
`canonicalText` writes it.

Values may lie within one another however deep. The machinery underneath
gives up on a value that is nested too deeply for it, and that is left
out here.
-/

namespace ProofLedger

/-- Why a value has no canonical text; the path leads to the culprit. -/
inductive CanonicalFault where
  | double (path : Text)
  | badKey (path kind : Text)
  | badValue (path kind : Text)
  | longInteger
  deriving DecidableEq, Repr

namespace CanonicalFault

def pathText (path : Text) : Text := if path.isEmpty then "<root>" else path

def message : CanonicalFault → Text
  | .double path => "Floats are not allowed in hashed content (at " ++ pathText path ++ ")."
  | .badKey path kind =>
    "Dictionary keys must be strings at " ++ pathText path ++ ", got " ++ kind
  | .badValue path kind =>
    "Non-JSON type at " ++ pathText path ++ ": " ++ kind ++
      ". Only None, bool, int, str, dict, and list are allowed."
  | .longInteger => Number.longMessage

end CanonicalFault

namespace Data

/-- The path to an entry. -/
def entryPath (path key : Text) : Text := if path.isEmpty then key else path ++ 46 :: key

/-- The path to an item. -/
def itemPath (path : Text) (index : Nat) : Text := path ++ 91 :: (Text.ofNat index ++ [93])

/-- Entries of a canonical document. They are taken in the order of their given
keys; when two keys have the same normal form, the later one wins. -/
def canonicalEntries (entries : List (Text × Json)) : List (Text × Json) :=
  Json.sortEntries
    ((Json.sortEntries entries).foldl (fun done e => Json.setEntry done e.1.nfc e.2) [])

mutual

/-- The canonical document of a value at a path. -/
def canonicalAt (path : Text) : Data → Except CanonicalFault Json
  | .null => .ok .null
  | .bool b => .ok (.bool b)
  | .int n => .ok (.int n)
  | .text t => .ok (.text t.nfc)
  | .double _ => .error (.double path)
  | .bytes _ => .error (.badValue path "bytes")
  | .other kind _ _ => .error (.badValue path kind)
  | .list xs => (canonicalItems path 0 xs).map .list
  | .tuple xs => (canonicalItems path 0 xs).map .list
  | .dict es => (canonicalFields path es).map fun es => .dict (canonicalEntries es)

def canonicalItems (path : Text) (index : Nat) : List Data → Except CanonicalFault (List Json)
  | [] => .ok []
  | x :: xs => do
    let y ← canonicalAt (itemPath path index) x
    let ys ← canonicalItems path (index + 1) xs
    pure (y :: ys)

def canonicalFields (path : Text) :
    List (Key × Data) → Except CanonicalFault (List (Text × Json))
  | [] => .ok []
  | (.text k, v) :: es => do
    let y ← canonicalAt (entryPath path k) v
    let ys ← canonicalFields path es
    pure ((k, y) :: ys)
  | (k, _) :: _ => .error (.badKey path k.kind)

end

/-- The canonical document of a value. -/
def canonicalJson (d : Data) : Except CanonicalFault Json := d.canonicalAt []

end Data

namespace Json

mutual

/-- Every integer of a document fits a numeral. -/
def fits : Json → Bool
  | .int n => Number.fits n
  | .list xs => fitsItems xs
  | .dict es => fitsEntries es
  | _ => true

def fitsItems : List Json → Bool
  | [] => true
  | x :: xs => fits x && fitsItems xs

def fitsEntries : List (Text × Json) → Bool
  | [] => true
  | (_, v) :: es => fits v && fitsEntries es

end

end Json

/-- The canonical text of a value. -/
def Data.canonicalText (d : Data) : Except CanonicalFault Text := do
  let j ← d.canonicalJson
  if j.fits then .ok j.compact else .error .longInteger

/-- The digest of a text in hexadecimal digits, unless it has no octets. -/
def sha256OfText (t : Text) : Except Text.Unencodable Text := t.octets.map Sha256.hex

/-- The digest of the document in a text, whatever its layout: entries are put
into key order and blanks go. -/
def documentDigest (t : Text) : Except Json.ReadFault (Except Text.Unencodable Text) :=
  (Json.read t).map fun j => sha256OfText j.sorted.compact

end ProofLedger
