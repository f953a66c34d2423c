import AccessPolicy.Pattern.Fault
import AccessPolicy.Pattern.Node

namespace AccessPolicy.Pattern

/-- A piece of a pattern with its position. A backslash at the very end has nothing to escape. -/
inductive Token where
  | plain (position : Nat) (c : Char)
  | escape (position : Nat) (c : Char)
  | dangling (position : Nat)
deriving DecidableEq, Repr

/-- Where the piece begins. -/
def Token.position : Token → Nat
  | plain p _ | escape p _ | dangling p => p

/-- The piece as it is written. -/
def Token.chars : Token → List Char
  | plain _ c => [c]
  | escape _ c => ['\\', c]
  | dangling _ => ['\\']

/-- Whether the piece is one of some characters. -/
def Token.isAmong (set : List Char) : Token → Bool
  | plain _ c => set.contains c
  | _ => false

/-- The pieces of a pattern from a position on. -/
def tokens (position : Nat) : List Char → List Token
  | [] => []
  | ['\\'] => [.dangling position]
  | '\\' :: c :: rest => .escape position c :: tokens (position + 2) rest
  | c :: rest => .plain position c :: tokens (position + 1) rest

/-- A switch for the rest of a pattern or of a group. -/
inductive Flag where
  | ignoreCase
  | byLocale
  | multiline
  | dotAll
  | verbose
  | ascii
  | template
  | unicode
deriving DecidableEq, Repr

/-- The flag of a letter. -/
def Flag.ofChar? : Char → Option Flag
  | 'i' => some .ignoreCase
  | 'L' => some .byLocale
  | 'm' => some .multiline
  | 's' => some .dotAll
  | 'x' => some .verbose
  | 'a' => some .ascii
  | 't' => some .template
  | 'u' => some .unicode
  | _ => none

/-- Whether the flag says which kind of characters a pattern is about. At most one such flag is in force. -/
def Flag.isKind (f : Flag) : Bool :=
  f == .ascii || f == .byLocale || f == .unicode

/-- The flags in force. -/
abbrev Flags := List Flag

/-- The flags inside a group that turns some on and some off. -/
def Flags.adjust (flags on off : Flags) : Flags :=
  let kept := if on.any Flag.isKind then flags.filter fun f => !f.isKind else flags
  (kept ++ on).filter fun f => !off.contains f

/-- Which case differences are overlooked under some flags. -/
def Flags.fold (flags : Flags) : Fold :=
  if flags.contains .ignoreCase then if flags.contains .ascii then .ascii else .full else .exact

/-- Where the reading of a pattern stands: the pieces left, the position of the end, the width of each group
from the first on (none while it is open), the names of groups, how many groups there were when a look behind
began, the groups that conditions mention and where, and the flags in force. -/
structure Progress where
  left : List Token
  ending : Nat
  groups : List (Option Width)
  names : List (String × Nat)
  behind : Option Nat
  mentions : List (Nat × Nat)
  flags : Flags
deriving Repr

/-- A step of reading. -/
abbrev Reader := StateT Progress (Except Fault)

/-- The next piece. -/
def peek : Reader (Option Token) := do
  return (← get).left.head?

/-- The position of the next piece. -/
def here : Reader Nat := do
  let s ← get
  return (s.left.head?.map Token.position).getD s.ending

/-- Gives up at a place some characters back. -/
def fail {α : Type} (problem : Problem) (back : Nat) : Reader α := do
  throw (.at problem ((← here) - back))

/-- Goes on with some pieces. A backslash with nothing to escape is a fault as soon as it comes next. -/
def resume (left : List Token) : Reader Unit := do
  match left.head? with
  | some (.dangling position) => throw (.at .danglingEscape position)
  | _ => modify fun s => { s with left }

/-- Takes the next piece. -/
def take : Reader (Option Token) := do
  match (← get).left with
  | [] => return none
  | token :: rest =>
    resume rest
    return some token

/-- Takes the next piece if it is the given character. -/
def accept (c : Char) : Reader Bool := do
  match ← peek with
  | some token =>
    if token.isAmong [c] then
      resume ((← get).left.drop 1)
      return true
    else return false
  | none => return false

/-- Takes characters of a kind, at most so many. -/
def takeSome (ok : Char → Bool) : Nat → Reader (List Char)
  | 0 => return []
  | n + 1 => do
    match ← peek with
    | some (.plain _ c) =>
      if ok c then
        resume ((← get).left.drop 1)
        return c :: (← takeSome ok n)
      else return []
    | _ => return []

/-- Takes as many characters of a kind as there are. -/
def takeAll (ok : Char → Bool) : Reader (List Char) := do
  takeSome ok (← get).left.length

/-- The pieces up to a terminator: what is written there, and what follows the terminator where there is one. -/
def spanName (terminator : Char) : List Token → List Char × Option (List Token)
  | [] => ([], none)
  | token :: rest =>
    if token.isAmong [terminator] then ([], some rest)
    else
      let (name, after) := spanName terminator rest
      (token.chars ++ name, after)

/-- Takes a name and its terminator. -/
def takeName (terminator : Char) (what : String) : Reader (List Char) := do
  let left := (← get).left
  match spanName terminator left with
  | (name, none) =>
    if let some (.dangling position) := left.getLast? then throw (.at .danglingEscape position)
    resume []
    if name.isEmpty then fail (.missingName what) 0
    else fail (.unterminatedName terminator) name.length
  | (name, some rest) =>
    resume rest
    if name.isEmpty then fail (.missingName what) 1 else return name

/-- The number of the next group. -/
def nextGroup : Reader Nat := do
  return (← get).groups.length + 1

/-- Whether a group is complete. -/
def Progress.isClosed (s : Progress) (number : Nat) : Bool :=
  number != 0 && ((s.groups[number - 1]?).join).isSome

/-- Inside a look behind, only complete groups from before it may be mentioned. -/
def checkBehind (number : Nat) : Reader Unit := do
  let s ← get
  match s.behind with
  | none => return
  | some limit =>
    if !s.isClosed number then fail .openReference 0
    else if limit ≤ number then fail .sameLookBehind 0
    else return

end AccessPolicy.Pattern
