import ProofLedger.Json.Basic

/-!
# Writing documents

Two layouts of one document: `compact` on one line without blanks, and
`pretty` with one item a line, two blanks of indentation a level and a
line feed at the end. Both write entries in the order in which they
stand, both escape only what a JSON string cannot hold, and they agree on
numbers. A double without digits has a name in these layouts; documents
made by `Data.toJson` hold none.
-/

namespace ProofLedger.Json

/-- The double quote that bounds a string. -/
def quote : Nat := 34

/-- A code point inside a string: quote, backslash and control characters are
escaped, and everything else stands for itself. -/
def escape (c : Nat) : Text :=
  if c = quote then [92, 34]
  else if c = 92 then [92, 92]
  else if c = 10 then [92, 110]
  else if c = 13 then [92, 114]
  else if c = 9 then [92, 116]
  else if c = 8 then [92, 98]
  else if c = 12 then [92, 102]
  else if c < 32 then 92 :: 117 :: Text.Hex.ofNat 4 c
  else [c]

/-- A text as a JSON string. -/
def string (t : Text) : Text := quote :: (t.flatMap escape ++ [quote])

/-- A double as a JSON number or, when it has no digits, by name. -/
def doubleText (d : Double) : Text :=
  if d.isFinite then d.plain
  else if d.isNan then "NaN"
  else if d.isNegative then "-Infinity"
  else "Infinity"

/-- Parts with a comma between neighbours. -/
def commas : List Text → Text
  | [] => []
  | [x] => x
  | x :: xs => x ++ 44 :: commas xs

mutual

/-- A document on one line, without blanks. -/
def compact : Json → Text
  | .null => "null"
  | .bool true => "true"
  | .bool false => "false"
  | .int n => .ofInt n
  | .double d => doubleText d
  | .text t => string t
  | .list xs => 91 :: (commas (compactItems xs) ++ [93])
  | .dict es => 0x7B :: (commas (compactEntries es) ++ [0x7D])

def compactItems : List Json → List Text
  | [] => []
  | x :: xs => compact x :: compactItems xs

def compactEntries : List (Text × Json) → List Text
  | [] => []
  | (k, v) :: es => (string k ++ 58 :: compact v) :: compactEntries es

end

/-- A line feed and the blanks of a level. -/
def newline (level : Nat) : Text := 10 :: List.replicate (2 * level) 32

/-- Items between two brackets, one a line, indented one level more than the
brackets. Nothing stands between the brackets of an empty container. -/
def block (level opening closing : Nat) (parts : List Text) : Text :=
  match parts with
  | [] => [opening, closing]
  | parts =>
    opening :: (commas (parts.map (newline (level + 1) ++ ·)) ++ newline level ++ [closing])

mutual

/-- A document in lines, from a level of indentation on. -/
def prettyAt (level : Nat) : Json → Text
  | .list xs => block level 91 93 (prettyItems (level + 1) xs)
  | .dict es => block level 0x7B 0x7D (prettyEntries (level + 1) es)
  | .null => "null"
  | .bool true => "true"
  | .bool false => "false"
  | .int n => .ofInt n
  | .double d => doubleText d
  | .text t => string t

def prettyItems (level : Nat) : List Json → List Text
  | [] => []
  | x :: xs => prettyAt level x :: prettyItems level xs

def prettyEntries (level : Nat) : List (Text × Json) → List Text
  | [] => []
  | (k, v) :: es => (string k ++ 58 :: 32 :: prettyAt level v) :: prettyEntries level es

end

/-- A document in lines, with a line feed at the end. -/
def pretty (j : Json) : Text := prettyAt 0 j ++ [10]

end ProofLedger.Json
