import ProofLedger.Data.Basic
import ProofLedger.Number.Quantity

/-!
# The order of keys

Numbers and truth values have a common order and texts have one; nothing
else has. Not-a-number is not less than anything and nothing is less than
it, so a list of keys that holds it has no least arrangement. Such a list
is arranged all the same: the run at its start is kept, in ascending
order, and each further key goes where a search by halves leads. Keys
that have an order come out sorted either way.
-/

namespace ProofLedger

namespace Key

/-- The keys that have a common order. -/
inductive Family where
  | number
  | text
  | other
  deriving DecidableEq, Repr

def family : Key → Family
  | .bool _ | .int _ | .double _ => .number
  | .text _ => .text
  | _ => .other

/-- The number that a key is. -/
def quantity : Key → Quantity
  | .bool b => .whole (ofBool b)
  | .int n => .whole n
  | .double d => .double d
  | _ => .zero

/-- Whether a key comes before another of its family. -/
def lt (a b : Key) : Bool :=
  match a, b with
  | .text x, .text y => decide (x < y)
  | a, b => a.quantity.lt b.quantity

/-- Whether a key is a double that has no order. -/
def isNan : Key → Bool
  | .double d => d.isNan
  | _ => false

end Key

namespace Arrange

variable {α : Type} (lt : α → α → Bool)

/-- How many items continue the run that ends in `last`, which descends or does not. -/
def runLength (descends : Bool) (last : α) : List α → Nat
  | [] => 0
  | x :: r => if lt x last == descends then 1 + runLength descends x r else 0

/-- The place for an item between `low` and `high`, found by halves. -/
def place (x : α) (items : List α) : Nat → Nat → Nat → Nat
  | 0, low, _ => low
  | fuel + 1, low, high =>
    if high ≤ low then low
    else
      let middle := low + (high - low) / 2
      match items[middle]? with
      | some y =>
        if lt x y then place x items fuel low middle else place x items fuel (middle + 1) high
      | none => low

/-- Puts an item into its place. -/
def insert (items : List α) (x : α) : List α :=
  let n := place lt x items items.length 0 items.length
  items.take n ++ x :: items.drop n

/-- Arranges items whatever their order is like. -/
def byHalves : List α → List α
  | [] => []
  | [x] => [x]
  | x :: y :: r =>
    let descends := lt y x
    let n := 1 + runLength lt descends x (y :: r)
    let run := (x :: y :: r).take n
    ((x :: y :: r).drop n).foldl (insert lt) (if descends then run.reverse else run)

end Arrange

/-- Entries in key order, when their keys have a common order. A single entry is
in order whatever its key. -/
def sortByKey? {α : Type} (entries : List (Key × α)) : Option (List (Key × α)) :=
  match entries with
  | [] => some []
  | [e] => some [e]
  | e :: r =>
    if e.1.family = .other ∨ r.any (fun x => x.1.family != e.1.family) then none
    else if entries.any (·.1.isNan) then some (Arrange.byHalves (fun a b => a.1.lt b.1) entries)
    else some (entries.mergeSort fun a b => !b.1.lt a.1)

end ProofLedger
