import ProofLedger.Text.Basic

/-!
# Paths

Paths as text with slashes. A path in normal form has no empty parts and
no parts that are a single point; two points stay, because what they lead
to depends on links. Two slashes at the start mean another root than one;
more than two mean the same as one.
-/

namespace ProofLedger.Path

/-- How a path begins: nowhere in particular, or at one of the two roots. -/
def root (t : Text) : Text :=
  match t with
  | 47 :: 47 :: 47 :: _ => "/"
  | 47 :: 47 :: _ => "//"
  | 47 :: _ => "/"
  | _ => []

/-- The parts of a path that lead anywhere. -/
def parts (t : Text) : List Text :=
  (Text.splitOn 47 t).filter fun p => !p.isEmpty && p != [46]

/-- A path from its root and its parts; the empty path is a single point. -/
def ofParts (root : Text) (parts : List Text) : Text :=
  match root ++ Text.join [47] parts with
  | [] => [46]
  | t => t

/-- The normal form of a path. -/
def normal (t : Text) : Text := ofParts (root t) (parts t)

def isAbsolute (t : Text) : Bool := t.head? == some 47

/-- A path as seen from a directory. -/
def join (directory t : Text) : Text :=
  if isAbsolute t then normal t else ofParts (root directory) (parts directory ++ parts t)

/-- The directory that a path lies in. -/
def parent (t : Text) : Text := ofParts (root t) (parts t).dropLast

/-- Follows two points to the directory above, from left to right. -/
def climb (done : List Text) : List Text → List Text
  | [] => done.reverse
  | p :: rest => if p = [46, 46] then climb done.tail rest else climb (p :: done) rest

/-- The path from the root that a path means in a directory without links. -/
def resolve (directory t : Text) : Text :=
  let full := join directory t
  ofParts (root full) (climb [] (parts full))

/-- The home directories of accounts, by name. -/
abbrev Homes := List (Text × Text)

/-- The home directory of an account. -/
def homeOf (homes : Homes) (account : Text) : Option Text :=
  (homes.find? fun e => e.1 == account).map (·.2)

/-- A path with the name of an account at its start replaced by the home directory of
that account, if there is such an account. The empty name is the one of the caller. -/
def expandHome (homes : Homes) (t : Text) : Option Text :=
  match isAbsolute t, parts t with
  | false, (126 :: account) :: rest =>
    (homeOf homes account).map fun h => ofParts (root h) (parts h ++ rest)
  | _, _ => some (normal t)

end ProofLedger.Path
