import ProofLedger.Intake.Scalar

/-!
# Fields of a model

A model is filled from the entries of a dictionary. Each declared field
is looked up by its name; after the declared fields every entry that no
field declares is an issue of its own, in the order given.
-/

namespace ProofLedger.Intake

/-- The entries that a model is filled from. -/
abbrev Fields := List (Key × Data)

/-- A field that must be given. -/
def required {α : Type} (fields : Fields) (name : Text) (check : Data → Checked α) : Checked α :=
  match valueAt? fields name with
  | some d => (check d).under (.name name)
  | none => (Checked.fail .missing (.dict fields)).under (.name name)

/-- A field with a value to take when it is not given. -/
def optional {α : Type} (fields : Fields) (name : Text) (default : α)
    (check : Data → Checked α) : Checked α :=
  match valueAt? fields name with
  | some d => (check d).under (.name name)
  | none => .ok default

/-- A key as a step on the way to its value. An integer of more than 64 bits and
anything else that is no text stand as they are displayed. -/
def placeOfKey : Key → Place
  | .text t => .name t.lossy
  | .int n => if -2 ^ 63 ≤ n ∧ n < 2 ^ 63 then .index n else .name (.ofInt n)
  | .bool b => .index (Key.ofBool b)
  | k => .name k.display

/-- The issue of an entry that no field declares: its key is no text, or it is
one entry too many. -/
def strayIssue (e : Key × Data) : Issue :=
  match e.1 with
  | .text t => ⟨[.name t], .extra, e.2⟩
  | k => ⟨[placeOfKey k], .badKey, k.toData⟩

/-- Whether a field of this key is declared. -/
def isDeclared (names : List Text) : Key → Bool
  | .text t => names.contains t
  | _ => false

/-- The entries that no field declares. -/
def strays (fields : Fields) (names : List Text) : Fields :=
  fields.filter fun e => !isDeclared names e.1

/-- Whether a key is a text without octets. -/
def isUnencodable : Key → Bool
  | .text t => !decide t.Scalar
  | _ => false

/-- What the declared fields give when there is no entry but theirs. A key without
octets is the only issue then, unless a rule cannot even be told. -/
def closed {α : Type} (fields : Fields) (names : List Text) (checked : Checked α) : Checked α :=
  match (strays fields names).find? fun e => isUnencodable e.1 with
  | some e =>
    if checked.issues.any Issue.isUntold then checked else .fail .undecodableText e.1.toData
  | none =>
    match strays fields names with
    | [] => checked
    | es => .error (checked.issues ++ es.map strayIssue)

/-- The entries of a dictionary given for a model. -/
def model {α : Type} (name : Text) (build : Fields → Checked α) (d : Data) : Checked α :=
  match d with
  | .dict es => build es
  | _ => .fail (.notModel name) d

end ProofLedger.Intake
