import ProofLedger.Factory.Catalogue

/-!
# Factories

A configuration names its prover and its oracle by a path: a module, a
colon, and the way to a member of the module. `Factory.load` follows such
a path to one of the two makes of this library, or says why it leads to
neither.
-/

namespace ProofLedger.Factory

/-- The path of the reference prover. -/
def referenceEngine : Text := "proofguard.engines.reference:ReferenceEngine"

/-- The path of the reference oracle. -/
def referenceOracle : Text := "proofguard.engines.reference:ReferenceOracle"

/-- What is said of a module that does not exist. -/
def missing (name : Text) : Text := "No module named " ++ name.quoted

/-- What is added when a module was looked for where no modules are. -/
def packageHint (parent : Module) : Text :=
  if parent.isPackage then [] else "; " ++ parent.name.quoted ++ " is not a package"

/-- Walks from one module to the next inside it; the name of the first that does
not exist is the reason why it ends early. -/
def walk (parent : Module) : List Text → Except Text Module
  | [] => .ok parent
  | part :: rest =>
    match parent.inside? part with
    | some m => walk m rest
    | none => .error (missing (parent.name ++ 46 :: part) ++ packageHint parent)

/-- The module of a dotted name, or the reason why there is none. -/
def findModule (name : Text) : Except Text Module :=
  match Text.splitOn 46 name with
  | [] => .error (missing name)
  | top :: rest =>
    match module? top with
    | some m => walk m rest
    | none => .error (missing top)

/-- A name that starts at a module nobody has said. -/
def relativeFault (name : Text) : Failure :=
  .fault (.foreign "TypeError"
    ("the 'package' argument is required to perform a relative import for " ++ name.quoted))

/-- Names in marks, the last two of them with a word in between. -/
def enumerated (names : List Text) : Text :=
  match names.map Text.quoted with
  | [a, b] => a ++ " and " ++ b
  | marked => Text.join ", " marked.dropLast ++ ", and " ++ marked.getLast?.getD []

/-- An operation that was called without its arguments. -/
def unboundFault (name : Text) (arguments : List Text) : Failure :=
  .fault (.foreign "TypeError"
    (name ++ "() missing " ++ Text.ofNat arguments.length ++ " required positional arguments: " ++
      enumerated arguments))

/-- The make at the end of a path. -/
def member (path name wanted : Text) (m : Module) : Except Failure Make :=
  match m.member? (Text.splitOn 46 wanted) with
  | some (.make make) => .ok make
  | some (.operation arguments) => .error (unboundFault wanted arguments)
  | some .plain => .error (.ledger (.engineLoad (.notCallable path)))
  | none => .error (.ledger (.engineLoad (.noMember name wanted)))

/-- What a path leads to. -/
def load (path : Text) : Except Failure Make :=
  match Text.cutAt 58 path with
  | ([], _) | (_, none) | (_, some []) => .error (.ledger (.engineLoad (.malformed path)))
  | (name, some wanted) =>
    if name.head? = some 46 then .error (relativeFault name)
    else match findModule name with
      | .error reason => .error (.ledger (.engineLoad (.importFailed name reason)))
      | .ok m => member path name wanted m

end ProofLedger.Factory
