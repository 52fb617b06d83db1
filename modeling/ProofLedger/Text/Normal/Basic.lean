import ProofLedger.Text.Normal.Table

/-!
# Composed normal form

Two spellings of one letter, with the accent written apart or not, have
the same composed normal form. It is reached in three passes: take every
code point fully apart, bring neighbouring marks into the order of their
combining classes, and put each starter together with the marks that
nothing blocks.
-/

namespace ProofLedger.Text.Normal

/-! ## Hangul syllables -/

def syllableBase : Nat := 0xAC00

def leadBase : Nat := 0x1100

def vowelBase : Nat := 0x1161

/-- One below the first trailing consonant: a syllable without one has the
trailing index zero. -/
def trailBase : Nat := 0x11A7

def isSyllable (c : Nat) : Bool := syllableBase ≤ c && c < syllableBase + 11172

/-- The two or three letters of a syllable. -/
def syllableParts (c : Nat) : Text :=
  let i := c - syllableBase
  let trail := if i % 28 = 0 then [] else [trailBase + i % 28]
  (leadBase + i / 588) :: (vowelBase + i % 588 / 28) :: trail

/-- The syllable of a leading consonant and a vowel, or of an open syllable and
a trailing consonant. -/
def joinSyllable? (a b : Nat) : Option Nat :=
  if leadBase ≤ a && a < leadBase + 19 && vowelBase ≤ b && b < vowelBase + 21 then
    some (syllableBase + ((a - leadBase) * 21 + (b - vowelBase)) * 28)
  else if isSyllable a && (a - syllableBase) % 28 == 0 && trailBase < b && b < trailBase + 28 then
    some (a + (b - trailBase))
  else none

/-! ## Looking up -/

/-- What a code point stands for, when it stands for one other. -/
def single? (c : Nat) : Option Nat :=
  singles.findSome? fun run => if run.1 ≤ c then run.2[c - run.1]? else none

/-- The two parts of a code point that has two. -/
def parts? (c : Nat) : Option (Nat × Nat) :=
  ((pairs ++ oneWay).find? fun e => e.1 == c).map (·.2)

/-- The code point that two others compose to. -/
def composite? (a b : Nat) : Option Nat :=
  match joinSyllable? a b with
  | some c => some c
  | none => (pairs.find? fun e => e.2.1 == a && e.2.2 == b).map (·.1)

/-- The combining class of a mark; zero for a starter. -/
def markClass (c : Nat) : Nat :=
  if c < 0x300 then 0
  else match classes.find? fun r => r.1 ≤ c && c ≤ r.2.1 with
    | some r => r.2.2
    | none => 0

/-! ## The three passes -/

/-- Takes a code point apart. Only first parts come apart again, and none does
so more than three times, so `decompose` starts with enough fuel. -/
def decomposeWith : Nat → Nat → Text
  | 0, c => [c]
  | fuel + 1, c =>
    if c < 0xC0 then [c]
    else if isSyllable c then syllableParts c
    else match single? c with
      | some a => decomposeWith fuel a
      | none =>
        match parts? c with
        | some (a, b) => decomposeWith fuel a ++ [b]
        | none => [c]

def decompose (c : Nat) : Text := decomposeWith 4 c

/-- Puts a code point after the ones written so far (last first), before the
marks at their end that have a greater class. -/
def insertMark (c : Nat) : Text → Text
  | [] => [c]
  | p :: r =>
    if markClass c ≠ 0 ∧ markClass c < markClass p then p :: insertMark c r else c :: p :: r

/-- Brings neighbouring marks into the order of their classes. -/
def reorder (t : Text) : Text := (t.foldl (fun done c => insertMark c done) []).reverse

/-- Composes after a starter: `marks` are the marks kept since it, last first,
and `last` is the class of the last of them. A code point composes with the
starter if no mark stands between them, or only marks of lesser class. -/
def composeAfter (starter : Nat) (marks : Text) (last : Nat) : Text → Text
  | [] => starter :: marks.reverse
  | c :: r =>
    let k := markClass c
    let joined := if marks.isEmpty || last < k then composite? starter c else none
    match joined with
    | some s => composeAfter s marks last r
    | none =>
      if k = 0 then starter :: (marks.reverse ++ composeAfter c [] 0 r)
      else composeAfter starter (c :: marks) k r

/-- Composes a decomposed and ordered text; marks before the first starter stay. -/
def compose : Text → Text
  | [] => []
  | c :: r => if markClass c = 0 then composeAfter c [] 0 r else c :: compose r

end ProofLedger.Text.Normal

namespace ProofLedger.Text

/-- The composed normal form. Below U+0300 a text is its own normal form. -/
def nfc (t : Text) : Text :=
  if t.all (· < 0x300) then t
  else Normal.compose (Normal.reorder (t.flatMap Normal.decompose))

end ProofLedger.Text
