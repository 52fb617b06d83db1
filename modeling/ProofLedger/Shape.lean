import ProofLedger.Record.Object

/-!
# Shapes of proofs

A shape says how many objects a proof has, how often certain tags occur,
and which tags always carry the same data. `checkShape` looks for the
first thing that does not fit, in that order.
-/

namespace ProofLedger

/-- What is expected of the objects of a proof. Counts are integers: a shape may
ask for the impossible. -/
structure ProofShape where
  totalObjects : Option Nat
  requiredTags : List (Text × Int)
  uniformTags : List Text
  deriving DecidableEq, Repr

namespace ProofShape

def fieldNames : List Text := ["total_objects", "required_tags", "uniform_tags"]

/-- A count, or null for none. -/
def checkTotal (d : Data) : Checked (Option Nat) :=
  match d with
  | .null => .ok none
  | d => (Intake.nat d).map some

/-- A tag of the dictionary of counts. -/
def checkTag (k : Key) : Checked Text :=
  (Intake.text k.toData).under (.name "[key]")

/-- The entries of the dictionary of counts. -/
def checkCounts : Intake.Fields → Checked (List (Text × Int))
  | [] => .ok []
  | (k, v) :: r =>
    ((((checkTag k).both (Intake.int v)).under (Intake.placeOfKey k)).both (checkCounts r)).map
      fun p => p.1 :: p.2

/-- A dictionary from tags to counts. -/
def checkRequired (d : Data) : Checked (List (Text × Int)) :=
  match d with
  | .dict es => checkCounts es
  | d => .fail .notDict d

/-- Checks every field. -/
def ofFields (fields : Intake.Fields) : Checked ProofShape :=
  (Intake.closed fields fieldNames
    (((Intake.optional fields "total_objects" none checkTotal).both
      (Intake.optional fields "required_tags" [] checkRequired)).both
      (Intake.optional fields "uniform_tags" [] (Intake.sequence .notTuple Intake.text)))).map
    fun p => ⟨p.1.1, p.1.2, p.2⟩

def modelName : Text := "ProofShape"

/-- A shape from fields given one by one. -/
def build (fields : Intake.Fields) : Except Refusal ProofShape :=
  (ofFields fields).mapError (⟨modelName, ·⟩)

/-- The required tags as entries; as keys they come without lone surrogates. -/
def requiredEntries (s : ProofShape) : List (Key × Data) :=
  ofEntries (s.requiredTags.map fun e => (.text e.1.lossy, .int e.2))

/-- The fields as entries. -/
def toData (s : ProofShape) : Data :=
  .dict [(("total_objects" : Text), (s.totalObjects.map fun n => Data.int (n : Nat)).getD .null),
    (("required_tags" : Text), .dict s.requiredEntries),
    (("uniform_tags" : Text), .list (s.uniformTags.map .text))]

end ProofShape

/-- The first way in which objects do not fit a shape. -/
inductive ShapeMismatch where
  | cardinality (expected found : Nat)
  | tagCount (tag : Text) (expected : Int) (found : Nat)
  | inconsistent (tag : Text) (index : Nat)
  deriving DecidableEq, Repr

def ShapeMismatch.message : ShapeMismatch → Text
  | .cardinality expected found =>
    "Proof object cardinality mismatch: expected " ++ Text.ofNat expected ++ ", found " ++
      Text.ofNat found
  | .tagCount tag expected 0 =>
    "Required proof substructure '" ++ tag ++ "' is absent (expected " ++ Text.ofInt expected ++ ")"
  | .tagCount tag expected found =>
    "Proof substructure '" ++ tag ++ "' count mismatch: expected " ++ Text.ofInt expected ++
      ", found " ++ Text.ofNat found
  | .inconsistent tag index =>
    "Inconsistent '" ++ tag ++ "' substructure at proof object " ++ Text.ofNat index

/-- Whether the number that was asked for can be shown at all. What is found is counted in a
list and never that long. -/
def ShapeMismatch.isShowable : ShapeMismatch → Bool
  | .cardinality expected _ => Number.fits expected
  | .tagCount _ expected _ => Number.fits expected
  | .inconsistent .. => true

namespace ProofShape

/-- How many objects carry a tag. -/
def countTag (objects : List ProofObject) (tag : Text) : Nat :=
  objects.countP fun o => o.tag.val == tag

/-- The required tags in code point order. -/
def sortedTags (s : ProofShape) : List (Text × Int) :=
  s.requiredTags.mergeSort fun a b => !decide (b.1 < a.1)

/-- The first required tag whose count is not as required. -/
def countMismatch? (objects : List ProofObject) (tags : List (Text × Int)) :
    Option ShapeMismatch :=
  (tags.find? fun e => (countTag objects e.1 : Int) != e.2).map fun e =>
    .tagCount e.1 e.2 (countTag objects e.1)

/-- The index of the first object with the tag whose data differs from that of the
first object with the tag; `seen` is the latter once it has been met. -/
def deviant? (tag : Text) (seen : Option Text) (index : Nat) : List ProofObject → Option Nat
  | [] => none
  | o :: r =>
    if o.tag.val ≠ tag then deviant? tag seen (index + 1) r
    else match seen with
      | none => deviant? tag (some o.data.val) (index + 1) r
      | some data => if o.data.val = data then deviant? tag seen (index + 1) r else some index

/-- The first uniform tag whose objects differ. -/
def inconsistency? (objects : List ProofObject) (tags : List Text) : Option ShapeMismatch :=
  tags.findSome? fun tag => (deviant? tag none 0 objects).map (.inconsistent tag)

/-- The first mismatch: the number of objects, then the counts of tags in code
point order, then the uniform tags in the order of the shape. -/
def check (s : ProofShape) (objects : List ProofObject) : Except ShapeMismatch Unit :=
  match s.totalObjects.filter (· ≠ objects.length) with
  | some expected => .error (.cardinality expected objects.length)
  | none =>
    match countMismatch? objects s.sortedTags with
    | some m => .error m
    | none =>
      match inconsistency? objects s.uniformTags with
      | some m => .error m
      | none => .ok ()

end ProofShape

end ProofLedger
