import ProofLedger.Calendar.Date
import ProofLedger.Data.Basic
import ProofLedger.Number.Reading
import ProofLedger.Text.Hex

/-!
# Lexemes of TOML

Keys, strings, numbers and dates, each read from the head of a text
together with what follows it. Line ends are line feeds here; a lone
carriage return has no place anywhere. Dates and times are recognised so
that a document that holds them is read, but their values are not kept.
-/

namespace ProofLedger.Toml

/-- Why a text is no document. -/
inductive Fault where
  | invalid
  /-- A decimal integer has more digits than a numeral may have. -/
  | longInteger
  deriving DecidableEq, Repr

/-! ## Blanks and comments -/

def isBlank (c : Nat) : Bool := c == 32 || c == 9

def skipBlanks (t : Text) : Text := t.dropWhile isBlank

/-- Control characters other than the tab. -/
def isControl (c : Nat) : Bool := (c < 32 && c != 9) || c == 127

/-- Skips a comment, up to the end of the line. -/
def skipComment : Text → Except Fault Text
  | 35 :: r =>
    let (comment, rest) := r.span (· != 10)
    if comment.any isControl then .error .invalid else .ok rest
  | t => .ok t

/-- Skips blanks, line feeds and comments; `fuel` bounds the number of comments. -/
def skipGaps : Nat → Text → Except Fault Text
  | 0, t => .ok t
  | fuel + 1, t => do
    match t.dropWhile fun c => isBlank c || c == 10 with
    | 35 :: r => skipGaps fuel (← skipComment (35 :: r))
    | r => .ok r

/-! ## Strings -/

/-- The code point that some hexadecimal digits name. -/
def namedPoint (digits : Text) (count : Nat) : Except Fault Nat :=
  match (digits.mapM Text.Hex.digitValue?).map (·.foldl (fun n d => 16 * n + d) 0) with
  | some c => if digits.length = count ∧ Text.isScalar c then .ok c else .error .invalid
  | none => .error .invalid

/-- What a backslash and a letter stand for. -/
def simpleEscape? (c : Nat) : Option Nat :=
  if c = 98 then some 8
  else if c = 116 then some 9
  else if c = 110 then some 10
  else if c = 102 then some 12
  else if c = 114 then some 13
  else if c = 34 then some 34
  else if c = 92 then some 92
  else none

/-- What follows a backslash: the text that the escape stands for. -/
def escape (multiline : Bool) : Text → Except Fault (Text × Text)
  | 117 :: r => do pure ([← namedPoint (r.take 4) 4], r.drop 4)
  | 85 :: r => do pure ([← namedPoint (r.take 8) 8], r.drop 8)
  | c :: r =>
    match simpleEscape? c with
    | some x => .ok ([x], r)
    | none =>
      if multiline && (isBlank c || c == 10) then
        match (c :: r).dropWhile isBlank with
        | [] => .ok ([], [])
        | 10 :: rest => .ok ([], rest.dropWhile fun c => isBlank c || c == 10)
        | _ => .error .invalid
      else .error .invalid
  | [] => .error .invalid

/-- The inside of a string on one line, and what follows its end; `taken` is what
has been read, last code point first. -/
def basicFrom : Nat → Text → Text → Except Fault (Text × Text)
  | 0, _, _ => .error .invalid
  | _, _, [] => .error .invalid
  | _ + 1, taken, 34 :: r => .ok (taken.reverse, r)
  | fuel + 1, taken, 92 :: r => do
    let (x, rest) ← escape false r
    basicFrom fuel (x.reverse ++ taken) rest
  | fuel + 1, taken, c :: r =>
    if isControl c then .error .invalid else basicFrom fuel (c :: taken) r

/-- A string after its quotation mark. -/
def basic (t : Text) : Except Fault (Text × Text) := basicFrom (t.length + 1) [] t

/-- The inside of a string of several lines. -/
def basicLinesFrom : Nat → Text → Text → Except Fault (Text × Text)
  | 0, _, _ => .error .invalid
  | _, _, [] => .error .invalid
  | _ + 1, taken, 34 :: 34 :: 34 :: r => .ok (taken.reverse, r)
  | fuel + 1, taken, 92 :: r => do
    let (x, rest) ← escape true r
    basicLinesFrom fuel (x.reverse ++ taken) rest
  | fuel + 1, taken, c :: r =>
    if isControl c && c != 10 then .error .invalid else basicLinesFrom fuel (c :: taken) r

/-- A literal string after its apostrophe. -/
def literal (t : Text) : Except Fault (Text × Text) :=
  match t.span fun c => c != 39 && !isControl c with
  | (body, 39 :: r) => .ok (body, r)
  | _ => .error .invalid

/-- The inside of a literal string of several lines. -/
def literalLinesFrom : Text → Text → Except Fault (Text × Text)
  | taken, 39 :: 39 :: 39 :: r => .ok (taken.reverse, r)
  | taken, c :: r =>
    if isControl c && c != 10 then .error .invalid else literalLinesFrom (c :: taken) r
  | _, [] => .error .invalid

/-- Up to two more marks directly after the end of a string of several lines belong
to the string. -/
def moreMarks (mark : Nat) (body : Text) (t : Text) : Text × Text :=
  match t with
  | a :: b :: r =>
    if a = mark then (if b = mark then (body ++ [mark, mark], r) else (body ++ [mark], b :: r))
    else (body, t)
  | [a] => if a = mark then (body ++ [mark], []) else (body, t)
  | [] => (body, [])

/-- Drops a line feed at the head. -/
def dropLineFeed : Text → Text
  | 10 :: r => r
  | t => t

/-- A string of several lines after its three marks. -/
def basicLines (t : Text) : Except Fault (Text × Text) := do
  let (body, rest) ← basicLinesFrom (t.length + 1) [] (dropLineFeed t)
  pure (moreMarks 34 body rest)

/-- A literal string of several lines after its three marks. -/
def literalLines (t : Text) : Except Fault (Text × Text) := do
  let (body, rest) ← literalLinesFrom [] (dropLineFeed t)
  pure (moreMarks 39 body rest)

/-! ## Keys -/

def isBareKey (c : Nat) : Bool := Text.isWord c || c == 45 || c == 95

/-- One part of a key. -/
def keyPart : Text → Except Fault (Text × Text)
  | 39 :: r => literal r
  | 34 :: r => basic r
  | t =>
    match t.span isBareKey with
    | ([], _) => .error .invalid
    | (part, r) => .ok (part, r)

/-- A key: parts with points between them, and blanks around each. -/
def keyFrom : Nat → Text → Except Fault (List Text × Text)
  | 0, _ => .error .invalid
  | fuel + 1, t => do
    let (part, r) ← keyPart t
    match skipBlanks r with
    | 46 :: r => do
      let (parts, rest) ← keyFrom fuel (skipBlanks r)
      pure (part :: parts, rest)
    | r => pure ([part], r)

def key (t : Text) : Except Fault (List Text × Text) := keyFrom (t.length + 1) t

/-! ## Numbers -/

/-- Digits of some kind with single underscores between them, at least one. -/
def digitRun (isDigit : Nat → Bool) : Text → Text × Text
  | 95 :: c :: r =>
    if isDigit c then
      let (ds, rest) := digitRun isDigit r
      (c :: ds, rest)
    else ([], 95 :: c :: r)
  | c :: r =>
    if isDigit c then
      let (ds, rest) := digitRun isDigit r
      (c :: ds, rest)
    else ([], c :: r)
  | [] => ([], [])

/-- A digit and the digits after it, without underscores. -/
def digits? (isDigit : Nat → Bool) : Text → Option (Text × Text)
  | [] => none
  | c :: r =>
    if isDigit c then
      let (ds, rest) := digitRun isDigit r
      some (c :: ds, rest)
    else none

def isHexDigit (c : Nat) : Bool := (Text.Hex.digitValue? c).isSome

/-- The digits of an integer in another base. -/
def basedDigits? (letter : Nat) (t : Text) : Option (Nat × Text × Text) :=
  if letter = 120 then (digits? isHexDigit t).map fun p => (16, p.1, p.2)
  else if letter = 98 then (digits? (fun c => c == 48 || c == 49) t).map fun p => (2, p.1, p.2)
  else if letter = 111 then (digits? (fun c => 48 ≤ c && c ≤ 55) t).map fun p => (8, p.1, p.2)
  else none

/-- The value of digits in a base. -/
def valueIn (base : Nat) (digits : Text) : Nat :=
  digits.foldl (fun n c => base * n + (Text.Hex.digitValue? c).getD 0) 0

/-- The digits before a point: zero alone, or digits that start with another. -/
def whole? : Text → Option (Text × Text)
  | 48 :: r => some ([48], r)
  | t => digits? Text.isDigit t

/-- A point and digits. -/
def fraction : Text → Text × Text
  | 46 :: r => (digits? Text.isDigit r).getD ([], 46 :: r)
  | t => ([], t)

/-- A letter, an optional sign and digits. -/
def exponent? : Text → Option (Int × Text)
  | c :: r =>
    if c = 101 ∨ c = 69 then
      let (negative, body) := Number.cutSign r
      (digits? Text.isDigit body).map fun p =>
        (if negative then -(Text.natValue p.1 : Int) else Text.natValue p.1, p.2)
    else none
  | [] => none

/-- A decimal number without its sign. -/
def decimal (negative : Bool) (digits rest : Text) : Except Fault (Data × Text) :=
  let (fractional, r) := fraction rest
  let double (e : Int) : Data :=
    .double ((Number.Numeral.toDecimal ⟨digits, fractional, e⟩).toDouble negative)
  match exponent? r with
  | some (e, r) => .ok (double e, r)
  | none =>
    if fractional.isEmpty then
      if Number.maxDigits < digits.length then .error .longInteger
      else .ok (.int (if negative then -(Text.natValue digits : Int) else Text.natValue digits), r)
    else .ok (double 0, r)

/-- A name of a double without digits. -/
def namedDouble (negative : Bool) : Text → Except Fault (Data × Text)
  | 105 :: 110 :: 102 :: r => .ok (.double (.infinity negative), r)
  | 110 :: 97 :: 110 :: r => .ok (.double .nan, r)
  | _ => .error .invalid

/-- A number with an optional sign. -/
def signed (t : Text) : Except Fault (Data × Text) :=
  let (negative, body) := Number.cutSign t
  match whole? body with
  | some (digits, rest) => decimal negative digits rest
  | none => namedDouble negative body

/-- A number. -/
def number (t : Text) : Except Fault (Data × Text) :=
  match t with
  | 48 :: letter :: r =>
    match basedDigits? letter r with
    | some (base, digits, rest) => .ok (.int (valueIn base digits : Nat), rest)
    | none => signed t
  | t => signed t

/-! ## Dates and times -/

/-- Two digits and the number they spell. -/
def two? : Text → Option (Nat × Text)
  | a :: b :: r => if Text.isDigit a && Text.isDigit b then some (Text.natValue [a, b], r) else none
  | _ => none

/-- One given code point. -/
def mark? (c : Nat) : Text → Option Text
  | x :: r => if x = c then some r else none
  | [] => none

/-- A point and digits, if there are any. -/
def skipFraction (t : Text) : Text :=
  match t with
  | 46 :: c :: r => if Text.isDigit c then r.dropWhile Text.isDigit else t
  | t => t

/-- Hours and minutes. -/
def skipClock? (t : Text) : Option Text := do
  let (h, r) ← two? t
  let (m, r) ← two? (← mark? 58 r)
  if h ≤ 23 ∧ m ≤ 59 then some r else none

/-- Hours, minutes and seconds, with or without a fraction. -/
def skipTime? (t : Text) : Option Text := do
  let r ← skipClock? t
  let (s, r) ← two? (← mark? 58 r)
  if s ≤ 59 then some (skipFraction r) else none

/-- A distance from UTC, if there is one. -/
def skipOffset (t : Text) : Text :=
  match t with
  | c :: r =>
    if c = 90 ∨ c = 122 then r
    else if c = 43 ∨ c = 45 then (skipClock? r).getD t
    else t
  | [] => []

/-- A date. -/
def date? (t : Text) : Option (Calendar.Date × Text) := do
  let (century, r) ← two? t
  let (year, r) ← two? r
  let (month, r) ← two? (← mark? 45 r)
  let (day, r) ← two? (← mark? 45 r)
  if 1 ≤ month ∧ month ≤ 12 ∧ 1 ≤ day ∧ day ≤ 31 then some (⟨100 * century + year, month, day⟩, r)
  else none

/-- A date with a time, if one follows. -/
def dateAndTime (r : Text) : Text × Text :=
  match r with
  | c :: rest =>
    if c = 84 ∨ c = 116 ∨ c = 32 then
      match skipTime? rest with
      | some rest => ("datetime", skipOffset rest)
      | none => ("date", r)
    else ("date", r)
  | [] => ("date", [])

/-- Whether a month has the day. -/
def isDay (d : Calendar.Date) : Bool :=
  1 ≤ d.year && d.day ≤ Calendar.daysInMonth d.year d.month

/-- A date, a time, or both, when the text starts with one. -/
def moment? (t : Text) : Option (Except Fault (Data × Text)) :=
  match date? t with
  | some (d, r) =>
    let (kind, rest) := dateAndTime r
    some (if isDay d then .ok (.other kind kind .nothing, rest) else .error .invalid)
  | none => (skipTime? t).map fun r => .ok (.other "time" "time" .nothing, r)

end ProofLedger.Toml
