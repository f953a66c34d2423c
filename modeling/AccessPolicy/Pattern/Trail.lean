import AccessPolicy.Pattern.Node

namespace AccessPolicy.Pattern

/-- The marks of a search, two for each group, as far as groups have taken part; a group that was passed over has
none. The place is where the latest attempt began or, if it has succeeded, where it ended. -/
structure Trail where
  marks : List (Option Nat)
  place : Nat
deriving DecidableEq, Repr

namespace Trail

/-- The trail with an attempt at a place. -/
def moveTo (place : Nat) (t : Trail) : Trail := { t with place }

/-- Marks a position; marks that are skipped thereby are empty. -/
def mark (index position : Nat) (t : Trail) : Trail :=
  if index < t.marks.length then { t with marks := t.marks.set index (some position) }
  else { t with marks := t.marks ++ List.replicate (index - t.marks.length) none ++ [some position] }

/-- Takes back what a failed attempt has marked, given the marks before it. Inside a repetition the marks are put back as
they were; elsewhere only the marks of groups that had not taken part before are dropped, so that a group that was begun
anew keeps its new beginning beside its old end. -/
def undo (inside : Bool) (before : List (Option Nat)) (t : Trail) : Trail :=
  { t with marks := if inside then before else t.marks.take before.length }

/-- The beginning and the end of a group, if it has both and they are in order. -/
def extent? (t : Trail) (number : Nat) : Option (Nat × Nat) :=
  match t.marks[2 * number - 2]?, t.marks[2 * number - 1]? with
  | some (some first), some (some last) => if first ≤ last then some (first, last) else none
  | _, _ => none

/-- The first group that ends before it begins; the groups from a given one on are looked through. -/
def firstCrossed? (number : Nat) : List (Option Nat) → Option Nat
  | some first :: some last :: rest => if last < first then some number else firstCrossed? (number + 1) rest
  | _ :: _ :: rest => firstCrossed? (number + 1) rest
  | _ => none

/-- The first group that ends before it begins. -/
def crossed? (t : Trail) : Option Nat := firstCrossed? 1 t.marks

end Trail

/-- What comes of a search: whether it succeeds, and its trail either way. -/
abbrev Outcome := Bool × Trail

/-- What the rest of a pattern makes of a position. -/
abbrev Rest := Nat → Trail → Outcome

/-- Goes on after a failure. -/
def Outcome.orElse (r : Outcome) (other : Trail → Outcome) : Outcome :=
  if r.1 then r else other r.2

/-- A failure leads back to a place. -/
def Outcome.backTo (place : Nat) (r : Outcome) : Outcome :=
  r.orElse fun t => (false, t.moveTo place)

/-- The end of a part that is searched for on its own. -/
def arrive : Rest := fun p t => (true, t.moveTo p)

end AccessPolicy.Pattern
