import ProofLedger.Number.Decimal
import ProofLedger.Text.Quoted

/-!
# Values of unknown kind

Configuration files, record documents, engine answers and callers hand
over values whose kind is not known beforehand. `Data` is such a value,
`Key` a key of a dictionary. A dictionary is a list of entries, because
the order in which entries were given is visible in answers.
-/

namespace ProofLedger

/-- A key of a dictionary. A key that is a tuple only ever leads to an error, so
just its display is kept. -/
inductive Key where
  | null
  | bool (b : Bool)
  | int (n : Int)
  | double (d : Double)
  | text (t : Text)
  | bytes (b : Bytes)
  | tuple (display : Text)
  deriving DecidableEq, Repr

/-- What a value of a kind of its own is worth where an integer is wanted. -/
inductive Worth where
  /-- It is no number, as a date. -/
  | nothing
  /-- A whole decimal or fraction, a member of an enumeration, or an object with a conversion of
  its own. -/
  | int (n : Int)
  | fraction
  | infinite
  /-- It is converted to a double of 2^63 or more. -/
  | tooLarge
  deriving DecidableEq, Repr

/-- A value of unknown kind. -/
inductive Data where
  | null
  | bool (b : Bool)
  | int (n : Int)
  | double (d : Double)
  | text (t : Text)
  | bytes (b : Bytes)
  | list (items : List Data)
  | tuple (items : List Data)
  | dict (entries : List (Key × Data))
  /-- A value of any further kind, such as a date or a decimal. It may be taken for an integer, and
  for nothing else; kinds that pass for a text, a double or a list are left out. -/
  | other (kind display : Text) (worth : Worth)
  deriving Repr

instance : Inhabited Data := ⟨.null⟩

instance : Coe Text Data := ⟨.text⟩

instance : Coe Text Key := ⟨.text⟩

namespace Key

/-- Truth values count as the integers 0 and 1. -/
def ofBool (b : Bool) : Int := if b then 1 else 0

/-- The double that a numeric key equals, and the integer when it is one. -/
def integer? : Key → Option Int
  | .bool b => some (ofBool b)
  | .int n => some n
  | .double d => d.toInt?
  | _ => none

/-- Whether two keys name the same entry: numbers by value, whatever their kind,
and everything else by kind and content. Not-a-number names no entry twice. -/
def same (a b : Key) : Bool :=
  match a.integer?, b.integer? with
  | some x, some y => x == y
  | some _, none => false
  | none, some _ => false
  | none, none =>
    match a, b with
    | .double x, .double y => x.eq y
    | a, b => a == b

/-- The value that a key is. -/
def toData : Key → Data
  | .null => .null
  | .bool b => .bool b
  | .int n => .int n
  | .double d => .double d
  | .text t => .text t
  | .bytes b => .bytes b
  | .tuple display => .other "tuple" display .nothing

/-- The name of the kind of a key. -/
def kind : Key → Text
  | .null => "NoneType"
  | .bool _ => "bool"
  | .int _ => "int"
  | .double _ => "float"
  | .text _ => "str"
  | .bytes _ => "bytes"
  | .tuple _ => "tuple"

/-- A key as it appears inside the display of a dictionary. -/
def display : Key → Text
  | .null => "None"
  | .bool true => "True"
  | .bool false => "False"
  | .int n => .ofInt n
  | .double d => d.plain
  | .text t => t.quoted
  | .bytes b => Text.quotedBytes b
  | .tuple display => display

end Key

/-- Sets an entry: an entry under the same key keeps its place and its key and
takes the new value; otherwise a new entry goes to the end. -/
def setEntry {α : Type} (entries : List (Key × α)) (key : Key) (value : α) : List (Key × α) :=
  match entries with
  | [] => [(key, value)]
  | (k, v) :: r => if k.same key then (k, value) :: r else (k, v) :: setEntry r key value

/-- The entries that remain when they are set one after another. -/
def ofEntries {α : Type} (entries : List (Key × α)) : List (Key × α) :=
  entries.foldl (fun done e => setEntry done e.1 e.2) []

/-- The value of the entry under a text key. -/
def valueAt? {α : Type} (entries : List (Key × α)) (name : Text) : Option α :=
  (entries.find? fun e => e.1 == .text name).map (·.2)

namespace Data

/-- The name of the kind of a value. -/
def kind : Data → Text
  | .null => "NoneType"
  | .bool _ => "bool"
  | .int _ => "int"
  | .double _ => "float"
  | .text _ => "str"
  | .bytes _ => "bytes"
  | .list _ => "list"
  | .tuple _ => "tuple"
  | .dict _ => "dict"
  | .other kind _ _ => kind

/-- Empty containers, zeros, false and null do not hold; everything else does. -/
def holds : Data → Bool
  | .null => false
  | .bool b => b
  | .int n => n != 0
  | .double d => !d.eq .zero
  | .text t => !t.isEmpty
  | .bytes b => !b.isEmpty
  | .list xs => !xs.isEmpty
  | .tuple xs => !xs.isEmpty
  | .dict es => !es.isEmpty
  | .other .. => true

mutual

/-- A value as it appears inside a message. -/
def display : Data → Text
  | .null => "None"
  | .bool true => "True"
  | .bool false => "False"
  | .int n => .ofInt n
  | .double d => d.plain
  | .text t => t.quoted
  | .bytes b => Text.quotedBytes b
  | .list xs => 91 :: (Text.join ", " (displayItems xs) ++ [93])
  | .tuple xs =>
    match displayItems xs with
    | [x] => 40 :: (x ++ [44, 41])
    | parts => 40 :: (Text.join ", " parts ++ [41])
  | .dict es => 0x7B :: (Text.join ", " (displayEntries es) ++ [0x7D])
  | .other _ display _ => display

def displayItems : List Data → List Text
  | [] => []
  | x :: xs => display x :: displayItems xs

def displayEntries : List (Key × Data) → List Text
  | [] => []
  | (k, v) :: es => (k.display ++ (58 :: 32 :: display v)) :: displayEntries es

end

/-- A value on its own in a message: text stands without marks. -/
def shown : Data → Text
  | .text t => t
  | d => d.display

end Data

end ProofLedger
