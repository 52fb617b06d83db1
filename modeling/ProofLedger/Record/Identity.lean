import ProofLedger.Record.Basic

/-!
# Identities of records

A record is named for the label it was captured under and the instant it
was made at. The label becomes a slug: each run of code points other than
ASCII letters, digits, points and underscores turns into one dash, and
the dashes, points and underscores at both ends go. The instant becomes a
stamp in UTC.
-/

namespace ProofLedger.Identity

/-- Code points that a slug keeps. -/
def isSlugPoint (c : Nat) : Bool := Text.isWord c || c == 46 || c == 95

/-- Replaces each run of other code points by a dash; `dashed` tells that the run
before has been replaced already. -/
def dashRuns (dashed : Bool) : Text → Text
  | [] => []
  | c :: r =>
    if isSlugPoint c then c :: dashRuns false r
    else if dashed then dashRuns true r
    else 45 :: dashRuns true r

/-- What goes at both ends of a slug. -/
def isTrim (c : Nat) : Bool := c == 45 || c == 46 || c == 95

/-- The slug of a label. -/
def slug (label : Text) : Text :=
  match Text.stripBy isTrim (dashRuns false label) with
  | [] => "unlabeled"
  | t => t

/-- Whether a clock of unknown distance from UTC shows the first day. To find its
distance the day before would be needed. -/
def isUnplaced (m : Moment) : Bool := !m.isAware && m.wall < Calendar.daySpan

/-- The name of a record from its label and the time it was made; a clock of
unknown distance counts as UTC. -/
def derive (label : Text) (m : Moment) : Except TimeFault Text :=
  if isUnplaced m then .error .beforeCalendar
  else match m.utc? with
    | some u => .ok (slug label ++ 45 :: u.stampText)
    | none => .error .outOfRange

/-- What a record may be named in a store: a letter or digit, then letters,
digits, points, underscores and dashes, and at most one line feed at the end. -/
def isStorable (t : Text) : Bool :=
  let isPoint := fun c => isSlugPoint c || c == 45
  match (if t.getLast? = some 10 then t.dropLast else t) with
  | [] => false
  | c :: r => Text.isWord c && r.all isPoint

end ProofLedger.Identity
