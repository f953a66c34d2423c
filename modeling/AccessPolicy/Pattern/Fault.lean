import AccessPolicy.Text.Numeral
import AccessPolicy.Text.Quoted

namespace AccessPolicy.Pattern

/-- What is wrong. -/
inductive Problem where
  | danglingEscape
  | incompleteEscape (escape : String)
  | badEscape (escape : String)
  | octalRange (escape : String)
  | missingBrace
  | missingName (what : String)
  | unterminatedName (terminator : Char)
  | undefinedCharacter (name : String)
  | openReference
  | sameLookBehind
  | invalidReference (number : Nat)
  | unterminatedSet
  | badRange (low high : String)
  | repeatOrder
  | nothingToRepeat
  | multipleRepeat
  | unexpectedEnd
  | badName (name : String)
  | unknownName (name : String)
  | redefinedName (name : String) (number earlier : Nat)
  | unknownExtension (text : String)
  | unterminatedComment
  | unterminatedGroup
  | badNumber
  | thirdBranch
  | misplacedFlags
  | localeFlag
  | conflictingFlags
  | missingFlagEnd
  | missingFlag
  | missingColon
  | unknownFlag
  | globalFlagOn
  | globalFlagOff
  | kindFlagOff
  | contraryFlags
  | unbalanced
  | variableLookBehind
  | untemplated (operator : String)
deriving DecidableEq, Repr

/-- The wording of a problem. -/
def Problem.text : Problem → String
  | danglingEscape => "bad escape (end of pattern)"
  | incompleteEscape escape => "incomplete escape " ++ escape
  | badEscape escape => "bad escape " ++ escape
  | octalRange escape => "octal escape value " ++ escape ++ " outside of range 0-0o377"
  | missingBrace => "missing \x7b"
  | missingName what => "missing " ++ what
  | unterminatedName terminator => "missing " ++ terminator.toString ++ ", unterminated name"
  | undefinedCharacter name => "undefined character name " ++ Text.quoted name
  | openReference => "cannot refer to an open group"
  | sameLookBehind => "cannot refer to group defined in the same lookbehind subpattern"
  | invalidReference number => s!"invalid group reference {number}"
  | unterminatedSet => "unterminated character set"
  | badRange low high => "bad character range " ++ low ++ "-" ++ high
  | repeatOrder => "min repeat greater than max repeat"
  | nothingToRepeat => "nothing to repeat"
  | multipleRepeat => "multiple repeat"
  | unexpectedEnd => "unexpected end of pattern"
  | badName name => "bad character in group name " ++ Text.quoted name
  | unknownName name => "unknown group name " ++ Text.quoted name
  | redefinedName name number earlier =>
    s!"redefinition of group name {Text.quoted name} as group {number}; was group {earlier}"
  | unknownExtension text => "unknown extension " ++ text
  | unterminatedComment => "missing ), unterminated comment"
  | unterminatedGroup => "missing ), unterminated subpattern"
  | badNumber => "bad group number"
  | thirdBranch => "conditional backref with more than two branches"
  | misplacedFlags => "global flags not at the start of the expression"
  | localeFlag => "bad inline flags: cannot use 'L' flag with a str pattern"
  | conflictingFlags => "bad inline flags: flags 'a', 'u' and 'L' are incompatible"
  | missingFlagEnd => "missing -, : or )"
  | missingFlag => "missing flag"
  | missingColon => "missing :"
  | unknownFlag => "unknown flag"
  | globalFlagOn => "bad inline flags: cannot turn on global flag"
  | globalFlagOff => "bad inline flags: cannot turn off global flag"
  | kindFlagOff => "bad inline flags: cannot turn off flags 'a', 'u' and 'L'"
  | contraryFlags => "bad inline flags: flag turned on and off"
  | unbalanced => "unbalanced parenthesis"
  | variableLookBehind => "look-behind requires fixed-width pattern"
  | untemplated operator => "internal: unsupported template operator " ++ operator

/-- Why a text is no pattern: a problem at a place, a problem of the pattern as a whole, a repetition count, a
code point or a number of digits beyond all bounds, two kinds of characters asked for at once, or parts that
cannot be told apart when they are laid out. -/
inductive Fault where
  | at (problem : Problem) (position : Nat)
  | whole (problem : Problem)
  | hugeCount
  | hugeCode
  | longCount (digits : Nat)
  | twoKinds
  | mistaken
deriving DecidableEq, Repr

/-- Whether the fault is one of the form of the pattern. The others go beyond what patterns are checked for. -/
def Fault.isFormal : Fault → Bool
  | .at .. | .whole _ => true
  | _ => false

/-- A position, with line and column where the pattern has more than one line. -/
def positionText (source : List Char) (position : Nat) : String :=
  let before := source.take position
  let column := (before.reverse.takeWhile (· != '\n')).length + 1
  let line := before.count '\n' + 1
  let lines := if source.contains '\n' then s!" (line {line}, column {column})" else ""
  s!" at position {position}{lines}"

/-- What is said of a fault in a pattern. -/
def Fault.message (source : List Char) : Fault → String
  | .at problem position => problem.text ++ positionText source position
  | .whole problem => problem.text
  | .hugeCount => "the repetition number is too large"
  | .hugeCode => "the code point is too large"
  | .longCount digits => Text.tooLongText digits
  | .twoKinds => "ASCII and UNICODE flags are incompatible"
  | .mistaken => "invalid SRE code"

end AccessPolicy.Pattern
