import ProofLedger.Data.Basic
import ProofLedger.Text.Utf8

/-!
# Issues

What is wrong with a value that was handed in: where, why, and the value
itself. A check of many fields collects every issue instead of stopping
at the first; `Checked.both` is how two checks combine. `Refusal.message`
is the text of a list of issues.
-/

namespace ProofLedger

/-- One step on the way from a value to a part of it. -/
inductive Place where
  | name (t : Text)
  | index (n : Int)
  deriving DecidableEq, Repr

/-- Why a part of a value is refused. -/
inductive Cause where
  | missing
  | extra
  | badKey
  | notText
  | emptyText
  | undecodableText
  | notInt
  | unreadableInt
  | longInt
  | fractional
  | notDouble
  | unreadableDouble
  | notFinite
  | notBool
  | unreadableBool
  | negative
  | notPositive
  | notTuple
  | notList
  | notDict
  | notLiteral (expected : Text)
  | notModel (model : Text)
  | notPath
  /-- A rule of the domain is broken; the text says which. -/
  | rule (message : Text)
  deriving DecidableEq, Repr

/-- The short name of a cause in reports. -/
def Cause.code : Cause → Text
  | .missing => "missing"
  | .extra => "extra_forbidden"
  | .badKey => "invalid_key"
  | .notText => "string_type"
  | .emptyText => "string_too_short"
  | .undecodableText => "string_unicode"
  | .notInt => "int_type"
  | .unreadableInt => "int_parsing"
  | .longInt => "int_parsing_size"
  | .fractional => "int_from_float"
  | .notDouble => "float_type"
  | .unreadableDouble => "float_parsing"
  | .notFinite => "finite_number"
  | .notBool => "bool_type"
  | .unreadableBool => "bool_parsing"
  | .negative => "greater_than_equal"
  | .notPositive => "greater_than"
  | .notTuple => "tuple_type"
  | .notList => "list_type"
  | .notDict => "dict_type"
  | .notLiteral _ => "literal_error"
  | .notModel _ => "model_type"
  | .notPath => "path_type"
  | .rule _ => "value_error"

/-- The sentence that explains a cause. -/
def Cause.message : Cause → Text
  | .missing => "Field required"
  | .extra => "Extra inputs are not permitted"
  | .badKey => "Keys should be strings"
  | .notText => "Input should be a valid string"
  | .emptyText => "String should have at least 1 character"
  | .undecodableText =>
    "Input should be a valid string, unable to parse raw data as a unicode string"
  | .notInt => "Input should be a valid integer"
  | .unreadableInt => "Input should be a valid integer, unable to parse string as an integer"
  | .longInt => "Unable to parse input string as an integer, exceeded maximum size"
  | .fractional => "Input should be a valid integer, got a number with a fractional part"
  | .notDouble => "Input should be a valid number"
  | .unreadableDouble => "Input should be a valid number, unable to parse string as a number"
  | .notFinite => "Input should be a finite number"
  | .notBool => "Input should be a valid boolean"
  | .unreadableBool => "Input should be a valid boolean, unable to interpret input"
  | .negative => "Input should be greater than or equal to 0"
  | .notPositive => "Input should be greater than 0"
  | .notTuple => "Input should be a valid tuple"
  | .notList => "Input should be a valid list"
  | .notDict => "Input should be a valid dictionary"
  | .notLiteral expected => "Input should be " ++ expected.quoted
  | .notModel model => "Input should be a valid dictionary or instance of " ++ model
  | .notPath => "Input is not a valid path"
  | .rule message => "Value error, " ++ message

/-- One thing wrong with a value: the way to the part, the cause, and the part. -/
structure Issue where
  path : List Place
  cause : Cause
  input : Data
  deriving Repr

/-- The lone surrogates in the text of a broken rule. -/
def Issue.unencodable? (e : Issue) : Option Text.Unencodable :=
  match e.cause with
  | .rule message => if message.Scalar then none else some (.locate 0 message)
  | _ => none

/-- Whether the text of a broken rule has no octets. -/
def Issue.isUntold (e : Issue) : Bool := e.unencodable?.isSome

/-- A result, or everything that is wrong. -/
abbrev Checked (α : Type) := Except (List Issue) α

namespace Checked

def issues {α : Type} : Checked α → List Issue
  | .ok _ => []
  | .error es => es

/-- Both results, or the issues of both sides in order. -/
def both {α β : Type} (a : Checked α) (b : Checked β) : Checked (α × β) :=
  match a, b with
  | .ok x, .ok y => .ok (x, y)
  | a, b => .error (a.issues ++ b.issues)

/-- Puts a step in front of the place of every issue. -/
def under {α : Type} (place : Place) (a : Checked α) : Checked α :=
  a.mapError fun es => es.map fun e => { e with path := place :: e.path }

/-- A single issue at the value itself. -/
def fail {α : Type} (cause : Cause) (input : Data) : Checked α := .error [⟨[], cause, input⟩]

/-- Checks every item of a list under its index and keeps the results in order. -/
def itemsFrom {α : Type} (check : Data → Checked α) (index : Nat) : List Data → Checked (List α)
  | [] => .ok []
  | x :: xs =>
    (((check x).under (.index index)).both (itemsFrom check (index + 1) xs)).map
      fun p => p.1 :: p.2

def items {α : Type} (check : Data → Checked α) (xs : List Data) : Checked (List α) :=
  itemsFrom check 0 xs

end Checked

/-! ## The text of a list of issues -/

namespace Issue

/-- The longest start of a text that takes no more than so many octets. -/
def takeOctets : Nat → Text → Text
  | _, [] => []
  | room, c :: r =>
    let width := (Text.Utf8.encodePoint c).length
    if width ≤ room then c :: takeOctets (room - width) r else []

/-- The display of a value, cut in its middle when it takes more than fifty octets. -/
def shownInput (d : Data) : Text :=
  let t := d.display
  if (Text.Utf8.encode t).length ≤ 50 then t
  else takeOctets 25 t ++ "..." ++ (takeOctets 24 t.reverse).reverse

def placeText : Place → Text
  | .name t => t
  | .index n => .ofInt n

/-- The line on where an issue is, unless it is the whole value. -/
def placeLine (path : List Place) : Text :=
  if path.isEmpty then [] else Text.join "." (path.map placeText) ++ [10]

/-- The lines on one issue. The address of a page on its cause, which a setting of the surroundings
adds or leaves out, is left out. -/
def lines (e : Issue) : Text :=
  placeLine e.path ++ "  " ++ e.cause.message ++ " [type=" ++ e.cause.code ++
    ", input_value=" ++ shownInput e.input ++ ", input_type=" ++ e.input.kind ++ "]"

end Issue

/-- A value that failed the checks of a model. -/
structure Refusal where
  model : Text
  issues : List Issue
  deriving Repr

/-- The lone surrogates in the text of the first rule that cannot be told. -/
def Refusal.unencodable? (r : Refusal) : Option Text.Unencodable :=
  r.issues.findSome? Issue.unencodable?

/-- How many issues there are, and of which model. -/
def Refusal.heading (r : Refusal) : Text :=
  Text.ofNat r.issues.length ++ " validation error" ++ (if r.issues.length = 1 then "" else "s") ++
    " for " ++ r.model

/-- The heading and the lines on every issue. -/
def Refusal.message (r : Refusal) : Text :=
  Text.join "\n" (r.heading :: r.issues.map Issue.lines)

end ProofLedger
