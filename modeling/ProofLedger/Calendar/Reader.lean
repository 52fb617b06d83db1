import ProofLedger.Calendar.Moment
import ProofLedger.Text.Utf8

/-!
# Reading moments

The date is `YYYY-MM-DD`, `YYYYMMDD`, or a week date with or without its
day; then any one character; then the time, with or without colons and
with a fraction of a second, and a distance from UTC in the same forms.
The reader looks at octets. Past the end of a text it sees zeros, which
is why a text may end in the middle of a field and be refused there
without a check of its own.
-/

namespace ProofLedger.Moment

open Calendar

/-- The octet at a position, zero past the end. -/
def octetAt (t : List Nat) (i : Nat) : Nat := t.getD i 0

/-- The number in the first `n` octets, all of which must be digits, and the rest. -/
def digits? : Nat → List Nat → Option (Nat × List Nat)
  | n, t =>
    if (t.take n).length = n ∧ (t.take n).all Text.isDigit = true then
      some (Text.natValue (t.take n), t.drop n)
    else none

/-! ## Where the date ends -/

/-- The length of the run of digits that starts at a position. -/
def digitRun (t : List Nat) (i : Nat) : Nat := ((t.drop i).takeWhile Text.isDigit).length

/-- The position of the character between date and time. In a week date it takes
a look ahead: after `YYYY-Www-` a digit in the second place means that the dash
separates, and after `YYYYWww` the parity of the run of digits tells whether the
day is given. -/
def separatorAt? (t : List Nat) : Option Nat :=
  if t.length = 7 then some 7
  else if octetAt t 4 = 45 then
    if octetAt t 5 = 87 then
      if 8 < t.length ∧ octetAt t 8 = 45 then
        if t.length = 9 then none
        else if 10 < t.length ∧ Text.isDigit (octetAt t 10) = true then some 8
        else some 10
      else some 8
    else some 10
  else if octetAt t 4 = 87 then
    let pos := 7 + digitRun t 7
    if pos < 9 then some pos else if pos % 2 = 0 then some 7 else some 8
  else some 8

/-! ## The date -/

/-- Takes a dash off when one is wanted there. -/
def dash? (wanted : Bool) (t : List Nat) : Option (List Nat) :=
  if wanted then
    match t with
    | 45 :: r => some r
    | _ => none
  else some t

/-- The day of a date that ends at `stop`. -/
def readDay? (stop : Nat) (t : List Nat) : Option Nat := do
  let (year, r) ← digits? 4 t
  let dashed := octetAt r 0 == 45
  let r := if dashed then r.drop 1 else r
  if octetAt r 0 = 87 then
    let (week, r) ← digits? 2 (r.drop 1)
    if t.length - r.length < stop then
      let (day, _) ← digits? 1 (← dash? dashed r)
      dayOfWeekDate? year week day
    else dayOfWeekDate? year week 1
  else
    let (month, r) ← digits? 2 r
    let (day, _) ← digits? 2 (← dash? dashed r)
    let d : Date := ⟨year, month, day⟩
    if d.Valid then some d.toDay else none

/-! ## The time -/

/-- What follows the fields of a time: nothing, or one more octet, or a fraction
of which `left` octets belong to the time. -/
inductive TimeTail where
  | ended (extra : Bool)
  | fraction (left : Nat) (rest : List Nat)

/-- Up to `count` fields of two digits. `left` octets belong to the time, and
`colons` is set once the first field has shown whether colons are used. -/
def readFields? (colons : Option Bool) :
    Nat → Nat → List Nat → Option (List Nat × TimeTail)
  | 0, left, t => some ([], .fraction left t)
  | count + 1, left, t => do
    let (value, r) ← digits? 2 t
    let mark := octetAt r 0
    let colons := colons.getD (mark == 58)
    if left ≤ 3 then some ([value], .ended (mark != 0))
    else if colons && mark == 58 then
      (readFields? (some colons) count (left - 3) (r.drop 1)).map fun p => (value :: p.1, p.2)
    else if mark = 46 ∨ mark = 44 then some ([value], .fraction (left - 3) (r.drop 1))
    else if colons then none
    else (readFields? (some colons) count (left - 2) r).map fun p => (value :: p.1, p.2)

/-- Hours, minutes, seconds and microseconds, and whether anything follows. -/
structure TimeFields where
  hours : Nat
  minutes : Nat
  seconds : Nat
  micros : Nat
  extra : Bool
  deriving DecidableEq, Repr

/-- A fraction of a second to six places; digits beyond them are skipped. -/
def readFraction? (left : Nat) (t : List Nat) : Option (Nat × Bool) := do
  let n := min 6 left
  let (value, r) ← digits? n t
  some (value * 10 ^ (6 - n), octetAt (r.dropWhile Text.isDigit) 0 != 0)

/-- A time in the first `left` octets. -/
def readTime? (left : Nat) (t : List Nat) : Option TimeFields := do
  let (fields, tail) ← readFields? none 3 left t
  let field := fun i => fields.getD i 0
  match tail with
  | .ended extra => some ⟨field 0, field 1, field 2, 0, extra⟩
  | .fraction left r =>
    let (micros, extra) ← readFraction? left r
    some ⟨field 0, field 1, field 2, micros, extra⟩

/-- Whether an octet starts a distance from UTC. -/
def startsZone (c : Nat) : Bool := c == 43 || c == 45 || c == 90

/-- A distance from UTC, from its first octet on. When its seconds are zero the
distance is zero, whatever its fraction. -/
def readZone? (t : List Nat) : Option Int :=
  match t with
  | 90 :: r => if octetAt r 0 = 0 then some 0 else none
  | sign :: r =>
    match readTime? r.length r with
    | some f =>
      if f.extra then none
      else
        let seconds := f.hours * 3600 + f.minutes * 60 + f.seconds
        let micros : Int := if seconds = 0 then 0 else seconds * second + f.micros
        some (if sign = 45 then -micros else micros)
    | none => none
  | [] => none

/-- The microseconds since midnight, when the fields are those of a time. -/
def TimeFields.micros? (f : TimeFields) : Option Nat :=
  if f.hours < 24 ∧ f.minutes < 60 ∧ f.seconds < 60 then
    some ((f.hours * 3600 + f.minutes * 60 + f.seconds) * second + f.micros)
  else none

/-- A time and a distance from UTC when one is given. A time without one must end
where the text ends. -/
def readClock? (t : List Nat) : Option (Nat × Option Int) := do
  let before := t.takeWhile fun c => !startsZone c
  let zone := t.drop before.length
  let f ← readTime? before.length t
  let micros ← f.micros?
  if zone.isEmpty then if f.extra then none else some (micros, none)
  else some (micros, some (← readZone? zone))

/-- How many octets a character takes whose first octet is given. -/
def characterWidth (lead : Nat) : Nat :=
  if lead < 0x80 then 1
  else if lead / 16 = 14 then 3
  else if lead / 16 = 15 then 4
  else 2

/-- A moment from the octets of its text. -/
def readOctets? (t : List Nat) : Option Moment := do
  let stop ← separatorAt? t
  let day ← readDay? stop t
  if stop < t.length then
    let r := t.drop stop
    let (micros, zone) ← readClock? (r.drop (characterWidth (octetAt r 0)))
    make? (day * daySpan + micros : Nat) zone
  else make? (day * daySpan : Nat) none

/-- A lone surrogate may stand between date and time, and nowhere else: the first
of the three possible places that holds one is read as a `T`. -/
def patchSeparator (t : Text) : Text :=
  match [7, 8, 10].find? fun i => Text.isSurrogate (t.getD i 0) with
  | some i => t.set i 84
  | none => t

/-- Reads a moment in any of the accepted forms. -/
def ofText? (t : Text) : Option Moment :=
  if t.length < 7 then none
  else do
    let bytes ← (patchSeparator t).utf8?
    readOctets? (bytes.map UInt8.toNat)

/-- Reads the text of a record's time: a `Z` stands for UTC wherever it is. -/
def parse? (t : Text) : Option Moment :=
  ofText? (t.flatMap fun c => if c = 90 then "+00:00" else [c])

end ProofLedger.Moment
