import ProofLedger.Toml.Lexeme

/-!
# TOML documents

A document is a dictionary of values and tables. While it is read, some
places in it are closed: a table that was opened by a header or by dotted
keys is not opened again, and nothing is added to an array or an inline
table once it is written. `read` is the reader; it says of a text that is
no document only that it is none.

The reader goes down into arrays and inline tables however deep they are.
Where the machinery underneath would run out of room for that, a `Stack`
says so, and `read` is not to be asked.
-/

namespace ProofLedger.Toml

/-- The way to a table or value. -/
abbrev Path := List Text

/-- Entries of a table. -/
abbrev Table := List (Key × Data)

/-! ## Places in a document -/

/-- Changes the table at the end of a path and makes the tables on the way that do
not exist. A path through an array of tables goes on in its last one, unless
`throughArrays` forbids it. -/
def changeAt (throughArrays : Bool) (change : Table → Except Fault Table) :
    Path → Table → Except Fault Table
  | [], table => change table
  | k :: path, table =>
    match valueAt? table k with
    | none => do pure (setEntry table (.text k) (.dict (← changeAt throughArrays change path [])))
    | some (.dict es) => do
      pure (setEntry table (.text k) (.dict (← changeAt throughArrays change path es)))
    | some (.list xs) =>
      match xs.getLast? with
      | some (.dict es) =>
        if throughArrays then do
          let last ← changeAt throughArrays change path es
          pure (setEntry table (.text k) (.list (xs.dropLast ++ [.dict last])))
        else .error .invalid
      | _ => .error .invalid
    | some _ => .error .invalid

/-- Adds an entry that is not there yet. -/
def addEntry (name : Text) (value : Data) (table : Table) : Except Fault Table :=
  match valueAt? table name with
  | none => .ok (setEntry table (.text name) value)
  | some _ => .error .invalid

/-- Adds an empty table to an array of tables. -/
def addTable (name : Text) (table : Table) : Except Fault Table :=
  match valueAt? table name with
  | none => .ok (setEntry table (.text name) (.list [.dict []]))
  | some (.list xs) => .ok (setEntry table (.text name) (.list (xs ++ [.dict []])))
  | some _ => .error .invalid

/-- A path cut before its last part. -/
def cutLast (path : Path) : Path × Text := (path.dropLast, path.getLast?.getD [])

/-! ## Values -/

/-- Whether a value is an array or a table, and so closed once it is written. -/
def isContainer : Data → Bool
  | .list _ | .dict _ => true
  | _ => false

/-- Whether a closed path leads to the place or past it. -/
def isUnder (closed : List Path) (path : Path) : Bool := closed.any fun c => c.isPrefixOf path

mutual

/-- A value at the head of a text. -/
def value : Nat → Text → Except Fault (Data × Text)
  | 0, _ => .error .invalid
  | fuel + 1, t =>
    match t with
    | 34 :: 34 :: 34 :: r => (basicLines r).map fun p => (.text p.1, p.2)
    | 34 :: r => (basic r).map fun p => (.text p.1, p.2)
    | 39 :: 39 :: 39 :: r => (literalLines r).map fun p => (.text p.1, p.2)
    | 39 :: r => (literal r).map fun p => (.text p.1, p.2)
    | 116 :: 114 :: 117 :: 101 :: r => .ok (.bool true, r)
    | 102 :: 97 :: 108 :: 115 :: 101 :: r => .ok (.bool false, r)
    | 91 :: r => do
      let (xs, rest) ← items fuel (← skipGaps (r.length + 1) r)
      pure (.list xs, rest)
    | 0x7B :: r =>
      match skipBlanks r with
      | 0x7D :: rest => .ok (.dict [], rest)
      | r => (pairs fuel [] [] r).map fun p => (.dict p.1, p.2)
    | t => (moment? t).getD (number t)

/-- The items of an array up to its end. -/
def items : Nat → Text → Except Fault (List Data × Text)
  | _, 93 :: r => .ok ([], r)
  | 0, _ => .error .invalid
  | fuel + 1, t => do
    let (x, r) ← value fuel t
    match ← skipGaps (r.length + 1) r with
    | 93 :: rest => pure ([x], rest)
    | 44 :: rest => do
      let (xs, rest) ← items fuel (← skipGaps (rest.length + 1) rest)
      pure (x :: xs, rest)
    | _ => .error .invalid

/-- A key and its value. -/
def pair : Nat → Text → Except Fault ((Path × Data) × Text)
  | 0, _ => .error .invalid
  | fuel + 1, t => do
    match ← key t with
    | (path, 61 :: r) => do
      let (v, rest) ← value fuel (skipBlanks r)
      pure ((path, v), rest)
    | _ => .error .invalid

/-- The pairs of an inline table up to its end. -/
def pairs : Nat → Table → List Path → Text → Except Fault (Table × Text)
  | 0, _, _, _ => .error .invalid
  | fuel + 1, table, closed, t => do
    let ((path, v), r) ← pair fuel t
    if isUnder closed path then .error .invalid
    else
      let (parents, name) := cutLast path
      let table ← changeAt false (addEntry name v) parents table
      match skipBlanks r with
      | 0x7D :: rest => pure (table, rest)
      | 44 :: rest =>
        pairs fuel table (if isContainer v then path :: closed else closed) (skipBlanks rest)
      | _ => .error .invalid

end

/-! ## Statements -/

/-- What has been read of a document: its entries, the table that pairs go to, the
places that no header opens, those about to become such with the next header,
and those that nothing is added to. -/
structure Draft where
  table : Table
  header : Path
  opened : List Path
  pending : List Path
  closed : List Path

namespace Draft

def empty : Draft := ⟨[], [], [], [], []⟩

/-- The paths on the way to the last part of a key below the header. -/
def waypoints (header path : Path) : List Path :=
  (List.range (path.length - 1)).map fun i => header ++ path.take (i + 1)

/-- Adds a pair below the header. -/
def addPair (d : Draft) (path : Path) (v : Data) : Except Fault Draft := do
  let ways := waypoints d.header path
  let (parents, name) := cutLast path
  if ways.any d.opened.contains || isUnder d.closed (d.header ++ parents) then .error .invalid
  else
    let table ← changeAt true (addEntry name v) (d.header ++ parents) d.table
    pure { d with
      table
      pending := ways ++ d.pending
      closed := if isContainer v then (d.header ++ path) :: d.closed else d.closed }

/-- Closes what dotted keys opened. -/
def settle (d : Draft) : Draft := { d with opened := d.pending ++ d.opened, pending := [] }

/-- Opens a table. -/
def openTable (d : Draft) (path : Path) : Except Fault Draft := do
  let d := d.settle
  if d.opened.contains path || isUnder d.closed path then .error .invalid
  else
    pure { d with
      table := ← changeAt true .ok path d.table
      header := path
      opened := path :: d.opened }

/-- Opens the next table of an array of tables; what was opened in the one before
may be opened again in this one. -/
def openNext (d : Draft) (path : Path) : Except Fault Draft := do
  let d := d.settle
  if isUnder d.closed path then .error .invalid
  else
    let (parents, name) := cutLast path
    pure { d with
      table := ← changeAt true (addTable name) parents d.table
      header := path
      opened := path :: d.opened.filter (!path.isPrefixOf ·)
      closed := d.closed.filter (!path.isPrefixOf ·) }

end Draft

/-- A header, after its first bracket. -/
def readHeader (d : Draft) (t : Text) : Except Fault (Draft × Text) := do
  match t with
  | 91 :: r =>
    match ← key (skipBlanks r) with
    | (path, 93 :: 93 :: rest) => pure (← d.openNext path, rest)
    | _ => .error .invalid
  | r =>
    match ← key (skipBlanks r) with
    | (path, 93 :: rest) => pure (← d.openTable path, rest)
    | _ => .error .invalid

/-- A pair. -/
def readPair (d : Draft) (t : Text) : Except Fault (Draft × Text) := do
  let ((path, v), rest) ← pair (t.length + 1) t
  pure (← d.addPair path v, rest)

/-- One statement at the head of a line, if there is one. -/
def readStatement (d : Draft) (t : Text) : Except Fault (Draft × Text) :=
  match t with
  | 91 :: r => readHeader d r
  | 35 :: _ | [] => .ok (d, t)
  | t => readPair d t

/-- The statements of a document, one a line. -/
def readLines : Nat → Draft → Text → Except Fault Table
  | 0, _, _ => .error .invalid
  | fuel + 1, d, t =>
    match skipBlanks t with
    | [] => .ok d.table
    | 10 :: r => readLines fuel d r
    | start => do
      let (d, rest) ← readStatement d start
      match ← skipComment (skipBlanks rest) with
      | [] => pure d.table
      | 10 :: r => readLines fuel d r
      | _ => .error .invalid

/-- Carriage return and line feed in a row become a line feed. -/
def joinLineEnds : Text → Text
  | [] => []
  | 13 :: 10 :: r => 10 :: joinLineEnds r
  | c :: r => c :: joinLineEnds r

/-- The document in a text. -/
def read (t : Text) : Except Fault Table :=
  let t := joinLineEnds t
  readLines (t.length + 1) .empty t

/-! ## Nesting -/

/-- The room that the machinery underneath has for values within one another. How much of it a
value takes is up to that machinery, and so is which texts exhaust it before anything else is
found wrong with them; but these open more brackets and braces than there is room for. -/
structure Stack where
  room : Nat
  exhausted : Text → Bool
  enough : ∀ t, Text.openings t ≤ room → exhausted t = false

/-- A stack that no text exhausts. -/
def Stack.boundless : Stack := ⟨0, fun _ => false, fun _ _ => rfl⟩

end ProofLedger.Toml
