import ProofLedger.Data.Basic
import ProofLedger.Text.Numeral
import ProofLedger.Text.Quoted

/-!
# Arguments

The words of a command line. A word that starts with a dash names an
option; a long option may be cut short as long as it stays unambiguous,
and its value may follow after an equals sign. What looks like a negative
number, or holds a blank, is no option. After two dashes on their own
everything is an operand; two dashes in the place of a value are none, and
leave the option blank. A `Grammar` says which options and operands there
are, and what each does to the settings that are being collected.
-/

namespace ProofLedger.CommandLine

/-- Why reading ends before a command is known. -/
inductive Stop where
  | help
  | version
  /-- The words do not make sense to a program. -/
  | usage (program message : Text)
  deriving DecidableEq, Repr

/-- What is given for an option that wants a value. -/
inductive Given (α : Type) where
  /-- Two dashes took the place of the value. -/
  | blank
  | value (a : α)
  deriving DecidableEq, Repr

namespace Given

def value? {α : Type} : Given α → Option α
  | .blank => none
  | .value a => some a

/-- A value as it is, and a blank as an empty list. -/
def toData {α : Type} (f : α → Data) : Given α → Data
  | .blank => .list []
  | .value a => f a

/-- Reads what was written for an option. -/
def read {α : Type} (readValue : Text → Except Text α) (raw : Text) : Except Text (Given α) :=
  if raw = [45, 45] then .ok .blank else (readValue raw).map .value

end Given

/-- What an option does. -/
inductive Effect (σ : Type) where
  | help
  | version
  | switch (set : σ → σ)
  | value (set : Text → σ → Except Text σ)

/-- An option with all its names. -/
structure Flag (σ : Type) where
  names : List Text
  effect : Effect σ
  isRequired : Bool

/-- An operand. The last kind takes everything that follows, options included. -/
inductive Operand (σ : Type) where
  | one (name : Text) (set : Text → σ → σ)
  | optional (set : Text → σ → σ)
  | rest (set : List Text → σ → Except Stop σ)

/-- What a program understands. -/
structure Grammar (σ : Type) where
  program : Text
  flags : List (Flag σ)
  operands : List (Operand σ)

/-- What is written in the same word as the name of an option. -/
inductive Tail where
  | nothing
  | afterEquals (value : Text)
  /-- Right after the one letter of a short option. -/
  | joined (more : Text)
  deriving DecidableEq, Repr

/-- The text after an equals sign, if there is one. -/
def Tail.ofValue : Option Text → Tail
  | some value => .afterEquals value
  | none => .nothing

/-- An option as it was found: its flag, the name used, and the rest of the word. -/
structure Found (σ : Type) where
  flag : Flag σ
  name : Text
  tail : Tail

/-- A word and what it is taken for. -/
inductive Token (σ : Type) where
  | word (t : Text)
  /-- Two dashes on their own. -/
  | dashes
  | option (t : Text) (found : Option (Found σ))

def Token.text {σ : Type} : Token σ → Text
  | .word t => t
  | .dashes => [45, 45]
  | .option t _ => t

namespace Grammar

variable {σ : Type}

/-- Ends reading with a complaint. -/
def complain {α : Type} (g : Grammar σ) (message : Text) : Except Stop α :=
  .error (.usage g.program message)

/-- All names of options with their flags. -/
def names (g : Grammar σ) : List (Text × Flag σ) :=
  g.flags.flatMap fun f => f.names.map fun n => (n, f)

def named? (g : Grammar σ) (name : Text) : Option (Flag σ) :=
  (g.names.find? fun e => e.1 == name).map (·.2)

/-! ## What a word is -/

/-- The options that a cut word can stand for. A word with one dash may be a short
option with something written right after it. -/
def candidates (g : Grammar σ) (t : Text) : List (Found σ) :=
  match t with
  | 45 :: 45 :: _ =>
    let (start, explicit) := Text.cutAt 61 t
    (g.names.filter fun e => start.isPrefixOf e.1).map fun e => ⟨e.2, e.1, .ofValue explicit⟩
  | _ =>
    g.names.filterMap fun e =>
      if e.1 = t.take 2 then some ⟨e.2, e.1, .joined (t.drop 2)⟩
      else if t.isPrefixOf e.1 then some ⟨e.2, e.1, .nothing⟩
      else none

def isDigit (c : Nat) : Bool := (Text.digitValue? c).isSome

/-- Digits of any script; before them there may be more digits and a point. -/
def isNegativeBody (t : Text) : Bool :=
  match Text.cutAt 46 t with
  | (whole, none) => !whole.isEmpty && whole.all isDigit
  | (whole, some part) => whole.all isDigit && !part.isEmpty && part.all isDigit

/-- A dash and a number, and at most one line feed after it. -/
def looksNegative (t : Text) : Bool :=
  match t with
  | 45 :: r => isNegativeBody (if r.getLast? = some 10 then r.dropLast else r)
  | _ => false

def ambiguity (t : Text) (found : List (Found σ)) : Text :=
  "ambiguous option: " ++ t ++ " could match " ++ Text.join ", " (found.map (·.name))

/-- A word that starts with a dash and is not the name of an option. -/
def classifyOther (g : Grammar σ) (t : Text) : Except Stop (Token σ) :=
  match g.candidates t with
  | [found] => .ok (.option t (some found))
  | [] => .ok (if looksNegative t || t.contains 32 then .word t else .option t none)
  | found => g.complain (ambiguity t found)

/-- The option that stands before an equals sign in a word. -/
def beforeEquals? (g : Grammar σ) (t : Text) : Option (Found σ) :=
  match Text.cutAt 61 t with
  | (name, some value) => (g.named? name).map fun f => ⟨f, name, .afterEquals value⟩
  | (_, none) => none

/-- What a word is taken for. -/
def classify (g : Grammar σ) (t : Text) : Except Stop (Token σ) :=
  if t.head? ≠ some 45 ∨ t = [45] then .ok (.word t)
  else match g.named? t with
    | some f => .ok (.option t (some ⟨f, t, .nothing⟩))
    | none =>
      match g.beforeEquals? t with
      | some found => .ok (.option t (some found))
      | none => g.classifyOther t

/-- What all words are taken for. -/
def tokens (g : Grammar σ) : List Text → Except Stop (List (Token σ))
  | [] => .ok []
  | t :: rest =>
    if t = [45, 45] then .ok (.dashes :: rest.map .word)
    else do
      let token ← g.classify t
      pure (token :: (← g.tokens rest))

/-! ## Reading -/

/-- What has been collected: the settings, the operands still wanted, the required
options that were given, and the words that nobody wants. -/
structure Progress (σ : Type) where
  settings : σ
  operands : List (Operand σ)
  given : List Text
  extras : List Text

/-- Two dashes at the head, if they are there. -/
def leadingDashes : List (Token σ) → List (Token σ) × List (Token σ)
  | .dashes :: r => ([.dashes], r)
  | r => ([], r)

/-- The words of an operand of one word, with the two dashes around it. -/
def takeOne (ts : List (Token σ)) : Option (Text × List (Token σ)) :=
  match (leadingDashes ts).2 with
  | .word t :: r => some (t, (leadingDashes r).2)
  | _ => none

/-- What the words at the head give to an operand, and the words after them. -/
def takeOperand (o : Operand σ) (s : σ) (ts : List (Token σ)) :
    Except Stop (Option (σ × List (Token σ))) :=
  match o with
  | .one _ set => .ok ((takeOne ts).map fun p => (set p.1 s, p.2))
  | .optional set =>
    match takeOne ts with
    | some (t, r) => .ok (some (set t s, r))
    | none => .ok (some (s, (leadingDashes ts).2))
  | .rest set =>
    match takeOne ts with
    | some _ => do pure (some (← set (ts.map Token.text) s, []))
    | none => .ok none

/-- Gives words to the operands that are still wanted, one after another. -/
def takeOperands (p : Progress σ) : List (Operand σ) → List (Token σ) →
    Except Stop (Progress σ × List (Token σ))
  | [], ts => .ok ({ p with operands := [] }, ts)
  | o :: os, ts => do
    match ← takeOperand o p.settings ts with
    | some (s, rest) => takeOperands { p with settings := s } os rest
    | none => pure ({ p with operands := o :: os }, ts)

/-- An option as complaints name it. -/
def shownNames (f : Flag σ) : Text := Text.join [47] f.names

def argumentFault (f : Flag σ) (message : Text) : Text :=
  "argument " ++ shownNames f ++ ": " ++ message

/-- Complains of a value for an option that takes none. -/
def ignored {α : Type} (g : Grammar σ) (f : Flag σ) (value : Text) : Except Stop α :=
  g.complain (argumentFault f ("ignored explicit argument " ++ value.quoted))

/-- Checks what is joined to a short option that takes no value: these are further
such options, and nothing else. -/
def checkJoined (g : Grammar σ) (f : Flag σ) : Text → Except Stop Unit
  | [] => .ok ()
  | c :: r =>
    match g.named? [45, c] with
    | some f' => checkJoined g f' r
    | none => g.ignored f (c :: r)

/-- Checks what is written after the equals sign of an option that takes no value. Only
a short option may have anything there: it is as good as joined to it. -/
def checkExplicit (g : Grammar σ) (found : Found σ) (value : Text) : Except Stop Unit :=
  if found.name.length = 2 ∧ value ≠ [] then g.checkJoined found.flag value
  else g.ignored found.flag value

/-- What an option without a value does. Of options that are joined, the first alone
acts; the only ones that have short names end the reading. -/
def perform (g : Grammar σ) (found : Found σ) (p : Progress σ) (act : Except Stop σ) :
    Except Stop (Progress σ) := do
  match found.tail with
  | .nothing => pure ()
  | .afterEquals value => g.checkExplicit found value
  | .joined more => g.checkJoined found.flag more
  pure { p with settings := ← act }

/-- Takes a value for an option. -/
def store (g : Grammar σ) (f : Flag σ) (set : Text → σ → Except Text σ) (value : Text)
    (p : Progress σ) : Except Stop (Progress σ) :=
  match set value p.settings with
  | .ok s => .ok { p with settings := s }
  | .error message => g.complain (argumentFault f message)

/-- An option at the head of the words: it does its work, perhaps with the next
word. -/
def takeFlag (g : Grammar σ) (found : Found σ) (p : Progress σ) (rest : List (Token σ)) :
    Except Stop (Progress σ × List (Token σ)) :=
  let p := { p with given := found.flag.names ++ p.given }
  match found.flag.effect with
  | .help => do pure (← g.perform found p (.error .help), rest)
  | .version => do pure (← g.perform found p (.error .version), rest)
  | .switch set => do pure (← g.perform found p (.ok (set p.settings)), rest)
  | .value set =>
    match found.tail, rest with
    | .afterEquals x, _ | .joined x, _ => do pure (← g.store found.flag set x p, rest)
    | .nothing, .word x :: rest => do pure (← g.store found.flag set x p, rest)
    | .nothing, _ => g.complain (argumentFault found.flag "expected one argument")

/-- Whether a token is an option. -/
def isOption : Token σ → Bool
  | .option .. => true
  | _ => false

/-- Reads words from left to right. Words before an option go to the operands, all
that are still wanted; what is left over there is wanted by nobody. -/
def consume (g : Grammar σ) : Nat → Progress σ → List (Token σ) → Except Stop (Progress σ)
  | 0, p, _ => .ok p
  | fuel + 1, p, ts =>
    match ts with
    | .option t none :: rest => consume g fuel { p with extras := p.extras ++ [t] } rest
    | .option _ (some found) :: rest => do
      let (p, rest) ← g.takeFlag found p rest
      consume g fuel p rest
    | ts => do
      let (p', rest) ← takeOperands p p.operands ts
      if rest.length < ts.length then consume g fuel p' rest
      else
        let stray := ts.takeWhile (!isOption ·)
        let p := { p' with extras := p'.extras ++ stray.map Token.text }
        match ts.dropWhile (!isOption ·) with
        | [] => pure p
        | rest => consume g fuel p rest

/-- The operands and options that are missing. -/
def missing (g : Grammar σ) (p : Progress σ) : List Text :=
  ((g.flags.filter fun f => f.isRequired && !f.names.any p.given.contains).map shownNames) ++
    p.operands.filterMap fun
      | .one name _ => some name
      | _ => none

/-- The settings that words describe, and the words that nobody wants. -/
def read (g : Grammar σ) (settings : σ) (words : List Text) : Except Stop (σ × List Text) := do
  let ts ← g.tokens words
  let p ← g.consume (2 * ts.length + 2) ⟨settings, g.operands, [], []⟩ ts
  match g.missing p with
  | [] => pure (p.settings, p.extras)
  | names => g.complain ("the following arguments are required: " ++ Text.join ", " names)

end Grammar

end ProofLedger.CommandLine
