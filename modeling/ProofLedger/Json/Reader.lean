import ProofLedger.Json.Basic
import ProofLedger.Number.Reading
import ProofLedger.Text.Wide

/-!
# Reading documents

The reader takes a text from the front and returns what it read with the
text that is left; where it cannot go on it says what it expected and how
much was left. Each construct has a function of its own. Steps are
bounded by twice the length of the text, since no code point takes more
than two. An entry that is given twice keeps its first place and its last
value. Besides the numbers of JSON the names `NaN`, `Infinity` and
`-Infinity` are read as doubles.

The machinery underneath has room for only so many values within one
another. How much is left depends on who asks, so the `Room` is given
with the text; without it the reader goes down as far as it has to.
-/

namespace ProofLedger.Json

/-- What the reader did not find, or found out of place. -/
inductive Problem where
  | value
  | propertyName
  | colon
  | comma
  | extraData
  | openString
  | controlCharacter
  | escape
  | unicodeEscape
  | byteOrderMark
  deriving DecidableEq, Repr

def Problem.message : Problem → Text
  | .value => "Expecting value"
  | .propertyName => "Expecting property name enclosed in double quotes"
  | .colon => "Expecting ':' delimiter"
  | .comma => "Expecting ',' delimiter"
  | .extraData => "Extra data"
  | .openString => "Unterminated string starting at"
  | .controlCharacter => "Invalid control character at"
  | .escape => "Invalid \\escape"
  | .unicodeEscape => "Invalid \\uXXXX escape"
  | .byteOrderMark => "Unexpected UTF-8 BOM (decode using utf-8-sig)"

/-- Where reading stops: a problem with the number of code points left there, a
numeral that is too long, or a value for which there is no room. -/
inductive Stop where
  | problem (what : Problem) (left : Nat)
  | longInteger
  | tooDeep
  deriving DecidableEq, Repr

/-- How many lists and dictionaries there is room for within one another; none when
there is no bound. -/
abbrev Room := Option Nat

/-- The room within a list or a dictionary, if there is room for it. -/
def Room.enter? : Room → Option Room
  | none => some none
  | some 0 => none
  | some (n + 1) => some (some n)

/-- A result with the text that is left after it. -/
abbrev Step (α : Type) := Except Stop (α × Text)

/-- Space, tab, line feed and carriage return. -/
def isBlank (c : Nat) : Bool := c == 32 || c == 9 || c == 10 || c == 13

def skipBlanks (t : Text) : Text := t.dropWhile isBlank

/-! ## Strings -/

/-- The value of four hexadecimal digits. -/
def hexValue? (a b c d : Nat) : Option Nat := do
  let a ← Text.Hex.digitValue? a
  let b ← Text.Hex.digitValue? b
  let c ← Text.Hex.digitValue? c
  let d ← Text.Hex.digitValue? d
  pure (((a * 16 + b) * 16 + c) * 16 + d)

/-- Four hexadecimal digits, which something must follow. -/
def readHex? : Text → Option (Nat × Text)
  | a :: b :: c :: d :: x :: r => (hexValue? a b c d).map fun v => (v, x :: r)
  | _ => none

/-- The second half of a surrogate pair after its first half. An escape that is
no second half is left for the next step; one that is no escape at all stops. -/
def readLowHalf (high : Nat) (t : Text) : Step Nat :=
  match t with
  | 92 :: 117 :: a :: b :: c :: d :: x :: r =>
    match hexValue? a b c d with
    | some low =>
      if Text.Wide.isLow low then .ok (Text.Wide.joinPair high low, x :: r) else .ok (high, t)
    | none => .error (.problem .unicodeEscape (t.length - 1))
  | t => .ok (high, t)

/-- The code point of a letter after a backslash. -/
def shortEscape? (c : Nat) : Option Nat :=
  if c = 34 ∨ c = 92 ∨ c = 47 then some c
  else if c = 98 then some 8
  else if c = 102 then some 12
  else if c = 110 then some 10
  else if c = 114 then some 13
  else if c = 116 then some 9
  else none

/-- An escape, from behind its backslash. -/
def readEscape (t : Text) : Step Nat :=
  match t with
  | 117 :: r =>
    match readHex? r with
    | some (v, r) => if Text.Wide.isHigh v then readLowHalf v r else .ok (v, r)
    | none => .error (.problem .unicodeEscape t.length)
  | c :: r =>
    match shortEscape? c with
    | some v => .ok (v, r)
    | none => .error (.problem .escape (t.length + 1))
  | [] => .error (.problem .openString 0)

/-- A string without an end; `t` is what follows its opening quote. -/
def unclosed (t : Text) : Stop := .problem .openString (t.length + 1)

/-- The code points of a string up to its closing quote. `whole` is what follows the
opening quote, and `done` holds what was read, last first. -/
def readChars (whole : Text) : Nat → Text → Text → Step Text
  | 0, _, _ => .error (unclosed whole)
  | fuel + 1, done, t =>
    match t with
    | [] => .error (unclosed whole)
    | c :: r =>
      if c = 34 then .ok (done.reverse, r)
      else if c = 92 then
        if r.isEmpty then .error (unclosed whole)
        else match readEscape r with
          | .error e => .error e
          | .ok (v, r) => readChars whole fuel (v :: done) r
      else if c < 32 then .error (.problem .controlCharacter t.length)
      else readChars whole fuel (c :: done) r

/-- A string, from behind its opening quote; the steps it takes are at most its code
points and one. -/
def readString (fuel : Nat) (t : Text) : Step Text := readChars t fuel [] t

/-! ## Numbers and names -/

/-- The digits before the point: a zero alone, or digits that start otherwise. -/
def cutWhole (t : Text) : Option (Text × Text) :=
  match t with
  | [] => none
  | c :: r =>
    if c = 48 then some ([48], r)
    else if Text.isDigit c then some (Number.cutDigits t)
    else none

/-- A point with at least one digit after it, or nothing. -/
def cutFraction (t : Text) : Text × Text :=
  match t with
  | 46 :: r =>
    match Number.cutDigits r with
    | ([], _) => ([], t)
    | (ds, r) => (ds, r)
  | t => ([], t)

/-- An exponent with at least one digit, or nothing. -/
def cutExponent (t : Text) : Option Int × Text :=
  match t with
  | c :: r =>
    if c = 101 ∨ c = 69 then
      let (negative, body) := Number.cutSign r
      match Number.cutDigits body with
      | ([], _) => (none, t)
      | (ds, r) =>
        (some (if negative then -(Text.natValue ds : Int) else Text.natValue ds), r)
    else (none, t)
  | [] => (none, [])

/-- A number: an integer unless it has a fraction or an exponent. -/
def readNumber (t : Text) : Step Json :=
  let (negative, body) :=
    match t with
    | 45 :: r => (true, r)
    | t => (false, t)
  match cutWhole body with
  | none => .error (.problem .value t.length)
  | some (whole, r) =>
    let (fraction, r) := cutFraction r
    let (exponent, r) := cutExponent r
    if fraction.isEmpty && exponent.isNone then
      if Number.maxDigits < whole.length then .error .longInteger
      else
        let n := Text.natValue whole
        .ok (.int (if negative then -(n : Int) else n), r)
    else
      let numeral : Number.Numeral := ⟨whole, fraction, exponent.getD 0⟩
      .ok (.double (numeral.toDecimal.toDouble negative), r)

/-- The values that have a name. -/
def named : List (Text × Json) :=
  [("null", .null), ("true", .bool true), ("false", .bool false), ("NaN", .double .nan),
    ("Infinity", .double (Double.infinity false)), ("-Infinity", .double (Double.infinity true))]

/-- A value by name, else a number. -/
def readScalar (t : Text) : Step Json :=
  match named.find? fun e => e.1.isPrefixOf t with
  | some (name, j) => .ok (j, t.drop name.length)
  | none => readNumber t

/-! ## Values -/

mutual

/-- A value that starts at the front of the text. -/
def readValue : Nat → Room → Text → Step Json
  | 0, _, t => .error (.problem .value t.length)
  | fuel + 1, room, t =>
    match t with
    | 34 :: r => (readString (fuel + 1) r).map fun s => (.text s.1, s.2)
    | 0x7B :: r =>
      match room.enter?, skipBlanks r with
      | none, _ => .error .tooDeep
      | some _, 0x7D :: r => .ok (.dict [], r)
      | some inner, r => readMembers fuel inner [] r
    | 91 :: r =>
      match room.enter?, skipBlanks r with
      | none, _ => .error .tooDeep
      | some _, 93 :: r => .ok (.list [], r)
      | some inner, r => readItems fuel inner [] r
    | t => readScalar t

/-- The items of a list up to its closing bracket, with the room that there is for
each; `done` has the last first. -/
def readItems : Nat → Room → List Json → Text → Step Json
  | 0, _, _, t => .error (.problem .value t.length)
  | fuel + 1, room, done, t =>
    match readValue fuel room t with
    | .error e => .error e
    | .ok (v, r) =>
      match skipBlanks r with
      | 93 :: r => .ok (.list (v :: done).reverse, r)
      | 44 :: r => readItems fuel room (v :: done) (skipBlanks r)
      | r => .error (.problem .comma r.length)

/-- The entries of a dictionary up to its closing brace. -/
def readMembers : Nat → Room → List (Text × Json) → Text → Step Json
  | 0, _, _, t => .error (.problem .value t.length)
  | fuel + 1, room, done, t =>
    match t with
    | 34 :: r =>
      match readString (fuel + 1) r with
      | .error e => .error e
      | .ok (k, r) =>
        match skipBlanks r with
        | 58 :: r =>
          match readValue fuel room (skipBlanks r) with
          | .error e => .error e
          | .ok (v, r) =>
            match skipBlanks r with
            | 0x7D :: r => .ok (.dict (setEntry done k v), r)
            | 44 :: r => readMembers fuel room (setEntry done k v) (skipBlanks r)
            | r => .error (.problem .comma r.length)
        | r => .error (.problem .colon r.length)
    | t => .error (.problem .propertyName t.length)

end

/-- Why a text is no document: a problem with its place, a numeral that is too long, or
a value for which there is no room. -/
inductive ReadFault where
  | problem (what : Problem) (line column position : Nat)
  | longInteger
  | tooDeep
  deriving DecidableEq, Repr

/-- The problem at a position, with the line and column there; lines end at line
feeds. -/
def ReadFault.atPosition (t : Text) (what : Problem) (position : Nat) : ReadFault :=
  let before := t.take position
  .problem what (before.count 10 + 1) ((before.reverse.takeWhile (· ≠ 10)).length + 1) position

def ReadFault.ofStop (t : Text) : Stop → ReadFault
  | .problem what left => .atPosition t what (t.length - left)
  | .longInteger => .longInteger
  | .tooDeep => .tooDeep

/-- The text of a problem and of its place. -/
def placeMessage (what : Problem) (line column position : Nat) : Text :=
  what.message ++ ": line " ++ Text.ofNat line ++ " column " ++ Text.ofNat column ++
    " (char " ++ Text.ofNat position ++ ")"

/-- A document alone in a text, with blanks around it. A code point takes at most two
steps: one for the value it opens, and one for what that value holds. -/
def readWhole (t : Text) (room : Room := none) : Except ReadFault Json :=
  match readValue (2 * t.length + 2) room (skipBlanks t) with
  | .error e => .error (.ofStop t e)
  | .ok (j, r) =>
    match skipBlanks r with
    | [] => .ok j
    | r => .error (.ofStop t (.problem .extraData r.length))

/-- A document that was handed over as text, where a byte order mark has no place. -/
def read (t : Text) (room : Room := none) : Except ReadFault Json :=
  match t with
  | 0xFEFF :: _ => .error (.atPosition t .byteOrderMark 0)
  | t => readWhole t room

end ProofLedger.Json
