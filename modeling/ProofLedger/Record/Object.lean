import ProofLedger.Intake.Fields

/-!
# Objects of a proof

A proof is a list of objects that nobody here interprets: a tag and the
object's octets in hexadecimal. One line feed may stand at the end of the
digits; it belongs to the text of the object and not to its octets.
-/

namespace ProofLedger

/-- Hexadecimal digits in pairs, and at most one line feed after them. -/
def isHexField (t : Text) : Bool :=
  Text.Hex.isHexText t || (t.getLast? == some 10 && Text.Hex.isHexText t.dropLast)

theorem isHexField_encode (bytes : Bytes) : isHexField (Text.Hex.encode bytes) = true := by
  simp [isHexField, Text.Hex.isHexText_encode]

/-- A tag and octets in hexadecimal. -/
structure ProofObject where
  tag : Name
  data : { t : Text // isHexField t = true }
  deriving DecidableEq, Repr

namespace ProofObject

def hexMessage : Text := "data must be a lowercase, even-length hex string"

/-- Text in hexadecimal digits. -/
def checkData (d : Data) : Checked { t : Text // isHexField t = true } := do
  let t ← Intake.text d
  if h : isHexField t = true then .ok ⟨t, h⟩ else .fail (.rule hexMessage) d

/-- The names of the fields, in order. -/
def fieldNames : List Text := ["type", "data"]

/-- Checks every field. -/
def ofFields (fields : Intake.Fields) : Checked ProofObject :=
  (Intake.closed fields fieldNames
    ((Intake.required fields "type" Intake.name).both
      (Intake.required fields "data" checkData))).map fun p => ⟨p.1, p.2⟩

def modelName : Text := "ProofObject"

/-- An object from a dictionary. -/
def check (d : Data) : Checked ProofObject := Intake.model modelName ofFields d

/-- An object from fields given one by one. -/
def build (fields : Intake.Fields) : Except Refusal ProofObject :=
  (ofFields fields).mapError (⟨modelName, ·⟩)

/-- An object from its tag and its octets. -/
def ofBytes (tag : Data) (payload : Bytes) : Except Refusal ProofObject :=
  build [(("type" : Text), tag), (("data" : Text), .text (Text.Hex.encode payload))]

/-- The octets that the digits spell. -/
def payload (o : ProofObject) : Bytes :=
  (Text.Hex.decode? (o.data.val.filter (· ≠ 10))).getD []

/-- The fields as entries. -/
def toFields (o : ProofObject) : Intake.Fields :=
  [(("type" : Text), .text o.tag.val), (("data" : Text), .text o.data.val)]

def toData (o : ProofObject) : Data := .dict o.toFields

end ProofObject

end ProofLedger
