import ProofLedger.Data.KeyOrder
import ProofLedger.Number.Reading

/-!
# Documents

`Json` is what a JSON document can hold: keys are text and there is one
kind of list. `Data.toJson?` turns a value of unknown kind into a
document with every dictionary in key order, and says what stands in the
way when it cannot.
-/

namespace ProofLedger

/-- A JSON document; numbers are integers of any size or doubles. -/
inductive Json where
  | null
  | bool (b : Bool)
  | int (n : Int)
  | double (d : Double)
  | text (t : Text)
  | list (items : List Json)
  | dict (entries : List (Text × Json))
  deriving Repr

instance : Inhabited Json := ⟨.null⟩

namespace Json

mutual

/-- A document as a value of unknown kind. -/
def toData : Json → Data
  | .null => .null
  | .bool b => .bool b
  | .int n => .int n
  | .double d => .double d
  | .text t => .text t
  | .list xs => .list (toDataItems xs)
  | .dict es => .dict (toDataEntries es)

def toDataItems : List Json → List Data
  | [] => []
  | x :: xs => toData x :: toDataItems xs

def toDataEntries : List (Text × Json) → List (Key × Data)
  | [] => []
  | (k, v) :: es => (.text k, toData v) :: toDataEntries es

end

/-- Sets an entry: a present key keeps its place and takes the new value. -/
def setEntry {α : Type} (entries : List (Text × α)) (key : Text) (value : α) : List (Text × α) :=
  match entries with
  | [] => [(key, value)]
  | (k, v) :: r => if k = key then (k, value) :: r else (k, v) :: setEntry r key value

/-- Entries in the order of their keys by code points. -/
def sortEntries {α : Type} (entries : List (Text × α)) : List (Text × α) :=
  entries.mergeSort fun a b => !decide (b.1 < a.1)

mutual

/-- Puts every dictionary of a document into key order. -/
def sorted : Json → Json
  | .list xs => .list (sortedItems xs)
  | .dict es => .dict (sortEntries (sortedEntries es))
  | j => j

def sortedItems : List Json → List Json
  | [] => []
  | x :: xs => sorted x :: sortedItems xs

def sortedEntries : List (Text × Json) → List (Text × Json)
  | [] => []
  | (k, v) :: es => (k, sorted v) :: sortedEntries es

end

end Json

/-- What keeps a value out of a document. -/
inductive JsonFault where
  /-- Keys that have no common order. -/
  | unordered
  /-- A key that has no text. -/
  | badKey (kind : Text)
  /-- A value that no document holds. -/
  | badValue (kind : Text)
  /-- A double without digits. -/
  | notFinite (d : Double)
  /-- An integer with more digits than a numeral may have. -/
  | longInteger
  deriving DecidableEq, Repr

namespace Key

/-- The text under which a key stands in a document. -/
def documentText : Key → Except JsonFault Text
  | .text t => .ok t
  | .null => .ok "null"
  | .bool true => .ok "true"
  | .bool false => .ok "false"
  | .int n => if Number.fits n then .ok (.ofInt n) else .error .longInteger
  | .double d => if d.isFinite then .ok d.plain else .error (.notFinite d)
  | k => .error (.badKey k.kind)

end Key

/-- Entries in key order, unless their keys have none. -/
def sortByKey {α : Type} (entries : List (Key × α)) : Except JsonFault (List (Key × α)) :=
  match sortByKey? entries with
  | some es => .ok es
  | none => .error .unordered

/-- The entries of a document, unless a key has no text or a value is faulty; the
first fault in the order of the entries counts. -/
def documentEntries :
    List (Key × Except JsonFault Json) → Except JsonFault (List (Text × Json))
  | [] => .ok []
  | (k, v) :: r => do
    let name ← k.documentText
    let value ← v
    let rest ← documentEntries r
    pure ((name, value) :: rest)

namespace Data

mutual

/-- A value as a document: dictionaries come in key order, keys become text and
tuples become lists. -/
def toJson : Data → Except JsonFault Json
  | .null => .ok .null
  | .bool b => .ok (.bool b)
  | .int n => if Number.fits n then .ok (.int n) else .error .longInteger
  | .double d => if d.isFinite then .ok (.double d) else .error (.notFinite d)
  | .text t => .ok (.text t)
  | .bytes _ => .error (.badValue "bytes")
  | .other kind _ _ => .error (.badValue kind)
  | .list xs => (toJsonItems xs).map .list
  | .tuple xs => (toJsonItems xs).map .list
  | .dict es => do
    let sorted ← sortByKey (toJsonEntries es)
    (documentEntries sorted).map .dict

def toJsonItems : List Data → Except JsonFault (List Json)
  | [] => .ok []
  | x :: xs => do
    let y ← toJson x
    let ys ← toJsonItems xs
    pure (y :: ys)

def toJsonEntries : List (Key × Data) → List (Key × Except JsonFault Json)
  | [] => []
  | (k, v) :: es => (k, toJson v) :: toJsonEntries es

end

end Data

end ProofLedger
