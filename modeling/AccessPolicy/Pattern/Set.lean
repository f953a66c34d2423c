import AccessPolicy.Pattern.Character
import AccessPolicy.Pattern.Escape

namespace AccessPolicy.Pattern

/-- The entry that an escape or a character makes in a set. -/
def setEntry (token : Token) : Reader Member := do
  match token with
  | .plain _ c => return .code c.toNat
  | .dangling position => throw (.at .danglingEscape position)
  | .escape _ c =>
    match ← setEscape c with
    | .code n => return .code n
    | .property category negated => return .property category negated
    | _ => fail (.badEscape (written [c])) 2

/-- A range from one entry to another, both of which have to be single code points in order. -/
def setRange (low high : Token) (first last : Member) : Reader Member := do
  match first, last with
  | .code a, .code b => if a ≤ b then return .range a b else refuse
  | _, _ => refuse
where
  refuse : Reader Member :=
    fail (.badRange (String.ofList low.chars) (String.ofList high.chars))
      (low.chars.length + 1 + high.chars.length)

/-- The entries of a set up to the closing bracket, which stands for itself where it comes first. -/
def setMembers (start : Nat) : Nat → List Member → Reader (List Member)
  | 0, members => return members.reverse
  | fuel + 1, members => do
    match ← take with
    | none => fail .unterminatedSet ((← here) - start)
    | some low =>
      if low.isAmong [']'] && !members.isEmpty then return members.reverse
      else
        let first ← setEntry low
        if ← accept '-' then
          match ← take with
          | none => fail .unterminatedSet ((← here) - start)
          | some high =>
            if high.isAmong [']'] then return (.code 45 :: first :: members).reverse
            else
              let last ← setEntry high
              setMembers start fuel ((← setRange low high first last) :: members)
        else setMembers start fuel (first :: members)

/-- The fold that is of use where it may make a difference. -/
def Flags.foldWhere (flags : Flags) (minds : Fold → Bool) : Fold :=
  if minds flags.fold then flags.fold else .exact

/-- The part that a character makes. -/
def charNode (flags : Flags) (n : Nat) : Node :=
  .char (flags.foldWhere fun fold => fold.minds n) n

/-- The part that entries of a set make. -/
def membersNode (flags : Flags) (negated : Bool) (members : List Member) : Node :=
  .set (flags.foldWhere fun fold => members.any fold.mindsMember) (flags.contains .ascii) negated members

/-- A set without its repeated entries; one character alone is no set. -/
def setNode (flags : Flags) (negated : Bool) (members : List Member) : Node :=
  match members.eraseDups with
  | [.code n] => if negated then .notChar (flags.foldWhere fun fold => fold.minds n) n else charNode flags n
  | members => membersNode flags negated members

/-- A set whose opening bracket has been taken. -/
def takeSet : Reader Node := do
  let start := (← here) - 1
  let negated ← accept '^'
  let members ← setMembers start ((← get).left.length + 1) []
  return setNode (← get).flags negated members

/-- The entries of an alternative that is one character. -/
def Node.members? : Node → Option (List Member)
  | .seq [.char _ n] => some [.code n]
  | .seq [.set _ _ false members] => some members
  | _ => none

/-- Whether two parts are the same character, set, place or reference. -/
def Node.sameLeaf : Node → Node → Bool
  | .char f n, .char g m | .notChar f n, .notChar g m | .reference f n, .reference g m => f == g && n == m
  | .any b, .any b' => b == b'
  | .anchor a, .anchor a' => a == a'
  | .set f a n ms, .set f' a' n' ms' => f == f' && a == a' && n == n' && ms == ms'
  | _, _ => false

/-- The part that all alternatives begin with. -/
def sharedHead? : List (List Node) → Option Node
  | (part :: _) :: others =>
    if others.all fun other => (other.head?.map part.sameLeaf).getD false then some part else none
  | _ => none

/-- The parts that all alternatives begin with, and what is left of each. -/
def splitShared : Nat → List (List Node) → List Node × List (List Node)
  | 0, options => ([], options)
  | fuel + 1, options =>
    match sharedHead? options with
    | none => ([], options)
    | some part =>
      let (shared, rest) := splitShared fuel (options.map List.tail)
      (part :: shared, rest)

/-- Alternatives in one row of parts: what they begin with in common, then a set if each is one character, and
a choice otherwise. -/
def joinOptions (flags : Flags) : List (List Node) → List Node
  | [parts] => parts
  | options =>
    let (shared, rest) := splitShared ((options.head?.map List.length).getD 0) options
    let rest := rest.map Node.seq
    match rest.mapM Node.members? with
    | some members =>
      shared ++ [membersNode flags false members.flatten.eraseDups]
    | none => shared ++ [.choice rest]

end AccessPolicy.Pattern
