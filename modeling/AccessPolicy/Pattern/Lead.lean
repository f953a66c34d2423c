import AccessPolicy.Pattern.Character
import AccessPolicy.Pattern.Trail

namespace AccessPolicy.Pattern

/-- What comes next in a pattern, as far as one character tells. -/
inductive Lead where
  | char (code : Nat)
  | set (takes : Char → Bool)
  | unknown

/-- Whether a position is ruled out for what comes next. -/
def Lead.refuses (text : Array Char) (p : Nat) : Lead → Bool
  | char code => ((text[p]?).map fun c => c.toNat != code).getD true
  | set takes => ((text[p]?).map fun c => !takes c).getD true
  | unknown => false

/-- What comes next, if it is a given character. -/
def Lead.charOnly : Lead → Lead
  | char code => char code
  | _ => unknown

mutual
/-- What a part begins with, given what comes behind it. -/
def Node.lead (next : Lead) : Node → Lead
  | .char .exact code => .char code
  | .set .exact ascii negated members => .set (takesChar .exact ascii negated members)
  | .group none body => body.lead next
  | .seq parts => leadOf next parts
  | _ => .unknown

/-- What parts in a row begin with. -/
def leadOf (next : Lead) : List Node → Lead
  | [] => next
  | part :: parts => part.lead (leadOf next parts)
end

/-- A part that is one character. Where case is overlooked in a set, a search moves on with each character that is
counted. -/
structure Single where
  takes : Char → Bool
  moves : Bool

mutual
/-- A part as one character, if it is that. -/
def Node.single? : Node → Option Single
  | .char fold code => some ⟨fun c => fold.isChar code c.toNat, fold.isMany code⟩
  | .notChar fold code => some ⟨fun c => !fold.isChar code c.toNat, fold.isMany code⟩
  | .any lineBreaks => some ⟨fun c => lineBreaks || c != '\n', false⟩
  | .set fold ascii negated members => some ⟨takesChar fold ascii negated members, fold != .exact⟩
  | .group none body => body.single?
  | .seq parts => singleOf? parts
  | _ => none

/-- Parts in a row as one character, if they are that. -/
def singleOf? : List Node → Option Single
  | [part] => part.single?
  | _ => none
end

/-- How many characters of a kind follow a position, at most so many. -/
def countFrom (text : Array Char) (takes : Char → Bool) : Nat → Nat → Nat
  | 0, _ => 0
  | n + 1, p =>
    match text[p]? with
    | some c => if takes c then countFrom text takes n (p + 1) + 1 else 0
    | none => 0

end AccessPolicy.Pattern
