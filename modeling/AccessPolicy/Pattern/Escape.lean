import AccessPolicy.Pattern.Token
import AccessPolicy.Text.CharacterName

namespace AccessPolicy.Pattern

/-- What an escape stands for. -/
inductive Escaped where
  | code (n : Nat)
  | property (category : Category) (negated : Bool)
  | anchor (place : Anchor)
  | reference (number : Nat)
deriving DecidableEq, Repr

/-- The controls that have letters. -/
def controlCode? : Char → Option Nat
  | 'a' => some 7
  | 'b' => some 8
  | 'f' => some 12
  | 'n' => some 10
  | 'r' => some 13
  | 't' => some 9
  | 'v' => some 11
  | '\\' => some 92
  | _ => none

/-- The properties that have letters. -/
def property? : Char → Option (Category × Bool)
  | 'd' => some (.digit, false)
  | 'D' => some (.digit, true)
  | 's' => some (.space, false)
  | 'S' => some (.space, true)
  | 'w' => some (.word, false)
  | 'W' => some (.word, true)
  | _ => none

/-- The places that have letters. -/
def place? (ascii : Bool) : Char → Option Anchor
  | 'A' => some .textStart
  | 'Z' => some .textEnd
  | 'b' => some (.boundary ascii false)
  | 'B' => some (.boundary ascii true)
  | _ => none

/-- Whether a character is a digit of base eight. -/
def isOctal (c : Char) : Bool := '0' ≤ c && c ≤ '7'

/-- Whether a character is a digit of base sixteen. -/
def isHex (c : Char) : Bool := c.isDigit || ('a' ≤ c && c ≤ 'f') || ('A' ≤ c && c ≤ 'F')

/-- The number that digits denote. -/
def numberOf (base : Nat) (digits : List Char) : Nat :=
  Text.ofBaseDigits base (digits.filterMap Text.baseDigit?)

/-- An escape as it is written. -/
def written (digits : List Char) : String :=
  String.ofList ('\\' :: digits)

/-- The first number that is beyond all bounds as a code point. -/
def codeLimit : Nat := Nat.pow 2 31

/-- The code point behind `x`, `u` or `U`, which takes exactly two, four or eight digits. -/
def hexEscape (c : Char) (size : Nat) : Reader Nat := do
  let digits ← takeSome isHex size
  if digits.length != size then fail (.incompleteEscape (written (c :: digits))) (digits.length + 2)
  else
    let n := numberOf 16 digits
    if codeLimit ≤ n then throw .hugeCode
    else if 0x10ffff < n then fail (.badEscape (written (c :: digits))) (digits.length + 2) else return n

/-- The code point of a character that is called by name. -/
def namedEscape : Reader Nat := do
  if !(← accept '\x7b') then fail .missingBrace 0
  else
    let name ← takeName '\x7d' "character name"
    match Text.named? name with
    | some n => return n
    | none => fail (.undefinedCharacter (String.ofList name)) (name.length + 4)

/-- The code points that are written in the same way inside and outside of sets. -/
def codeEscape? (c : Char) : Option (Reader Nat) :=
  match c with
  | 'x' => some (hexEscape c 2)
  | 'u' => some (hexEscape c 4)
  | 'U' => some (hexEscape c 8)
  | 'N' => some namedEscape
  | _ => none

/-- A code point in base eight, which is at most one byte. -/
def octalEscape (digits : List Char) : Reader Escaped := do
  let n := numberOf 8 digits
  if 0o377 < n then fail (.octalRange (written digits)) (digits.length + 1) else return .code n

/-- An escape that stands for its own character; letters of ASCII do not. -/
def ownEscape (c : Char) : Reader Escaped := do
  if c.isAlphanum then fail (.badEscape (written [c])) 2 else return .code c.toNat

/-- What an escape inside a set stands for. -/
def setEscape (c : Char) : Reader Escaped := do
  if let some n := controlCode? c then return .code n
  else if let some (category, negated) := property? c then return .property category negated
  else if let some code := codeEscape? c then return .code (← code)
  else if isOctal c then octalEscape (c :: (← takeSome isOctal 2))
  else ownEscape c

/-- A group called by number. -/
def groupEscape (digits : List Char) : Reader Escaped := do
  let number := numberOf 10 digits
  let s ← get
  if number ≤ s.groups.length then
    if !s.isClosed number then fail .openReference (digits.length + 1)
    else
      checkBehind number
      return .reference number
  else fail (.invalidReference number) digits.length

/-- What an escape by digits stands for: a code point with a leading nought or by three digits of base eight, a
group otherwise. -/
def digitEscape (c : Char) : Reader Escaped := do
  if c == '0' then octalEscape (c :: (← takeSome isOctal 2))
  else
    match ← takeSome Char.isDigit 1 with
    | [d] =>
      if isOctal c && isOctal d then
        match ← takeSome isOctal 1 with
        | [e] => octalEscape [c, d, e]
        | _ => groupEscape [c, d]
      else groupEscape [c, d]
    | _ => groupEscape [c]

/-- What an escape outside of sets stands for. -/
def bareEscape (ascii : Bool) (c : Char) : Reader Escaped := do
  if let some place := place? ascii c then return .anchor place
  else if let some (category, negated) := property? c then return .property category negated
  else if let some n := controlCode? c then return .code n
  else if let some code := codeEscape? c then return .code (← code)
  else if c.isDigit then digitEscape c
  else ownEscape c

end AccessPolicy.Pattern
