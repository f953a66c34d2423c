import AccessPolicy.Calendar
import AccessPolicy.Text.Numeral
import AccessPolicy.Text.Utf8
import AccessPolicy.Yaml.Mark

namespace AccessPolicy.Yaml

/-- The three shapes of a node. -/
inductive Shape where
  | scalar
  | sequence
  | mapping
deriving DecidableEq, Repr

/-- The name of a shape. -/
def Shape.name : Shape → String
  | .scalar => "scalar"
  | .sequence => "sequence"
  | .mapping => "mapping"

/-- The level at which a fault is found: among the tokens, among the events they make up, among the nodes, or
in the data that the nodes stand for. -/
inductive Level where
  | token
  | event
  | node
  | value
deriving DecidableEq, Repr

/-- What was going on when a fault was found. -/
inductive Activity where
  | nextToken
  | simpleKey
  | directive
  | alias
  | anchor
  | tag
  | tagName
  | directiveName
  | blockScalar
  | quotedScalar
  | doubleQuotedScalar
  | node
  | blockNode
  | flowNode
  | blockSequence
  | blockMapping
  | flowSequence
  | flowMapping
  | firstAnchor (name : String)
  | onlyDocument
  | mappingValue
  | orderedMap
  | pairs
deriving DecidableEq, Repr

/-- The wording of an activity. -/
def Activity.text : Activity → String
  | nextToken => "while scanning for the next token"
  | simpleKey => "while scanning a simple key"
  | directive => "while scanning a directive"
  | .alias => "while scanning an alias"
  | anchor => "while scanning an anchor"
  | tag => "while scanning a tag"
  | tagName => "while parsing a tag"
  | directiveName => "while parsing a directive"
  | blockScalar => "while scanning a block scalar"
  | quotedScalar => "while scanning a quoted scalar"
  | doubleQuotedScalar => "while scanning a double-quoted scalar"
  | node => "while parsing a node"
  | blockNode => "while parsing a block node"
  | flowNode => "while parsing a flow node"
  | blockSequence => "while parsing a block collection"
  | blockMapping => "while parsing a block mapping"
  | flowSequence => "while parsing a flow sequence"
  | flowMapping => "while parsing a flow mapping"
  | firstAnchor name => s!"found duplicate anchor {Text.quoted name}; first occurrence"
  | onlyDocument => "expected a single document in the stream"
  | mappingValue => "while constructing a mapping"
  | orderedMap => "while constructing an ordered map"
  | pairs => "while constructing pairs"

/-- What is wrong. -/
inductive Problem where
  | strayCharacter (found : Char)
  | missingColon
  | misplacedEntry
  | misplacedKey
  | misplacedValue
  | expectedName (found : Char)
  | expectedDigit (found : Char)
  | expectedDigitOrDot (found : Char)
  | expectedDigitOrSpace (found : Char)
  | expectedSpace (found : Char)
  | expectedBang (found : Char)
  | expectedAngle (found : Char)
  | expectedAddress (found : Char)
  | expectedLineEnd (found : Char)
  | expectedHex (count : Nat) (found : Char)
  | expectedAddressEscape (found : Char)
  | brokenAddress (fault : Text.Utf8Fault)
  | noughtIndent
  | expectedBlockHeader (found : Char)
  | unknownEscape (found : Char)
  | unexpectedEnd
  | unexpectedSeparator
  | duplicateVersion
  | incompatibleVersion
  | duplicateHandle (handle : String)
  | undefinedHandle (handle : String)
  | expectedDocument (found : String)
  | expectedContent (found : String)
  | expectedBlockEnd (found : String)
  | expectedSequenceEnd (found : String)
  | expectedMappingEnd (found : String)
  | undefinedAlias (name : String)
  | secondAnchor
  | anotherDocument
  | expectedShape (wanted found : Shape)
  | unknownTag (tag : String)
  | unhashableKey
  | unmergeable (found : Shape)
  | unmergeableItem (found : Shape)
  | recursiveNode
  | expectedSequence (found : Shape)
  | expectedSingleMapping (found : Shape)
  | expectedSingleItem (found : Nat)
  | notAscii (position count : Nat) (first : Char)
  | brokenBase64 (characters : Nat)
  | unpaddedBase64
deriving DecidableEq, Repr

/-- A character in quotes. -/
def quotedChar (c : Char) : String :=
  Text.quoted (String.singleton c)

/-- Which characters have no ASCII form. -/
def notAsciiText (position count : Nat) (first : Char) : String :=
  if count = 1 then
    s!"character '{String.ofList (Text.codeEscape first.toNat)}' in position {position}"
  else s!"characters in position {position}-{position + count - 1}"

/-- The wording of a problem. -/
def Problem.text : Problem → String
  | strayCharacter c => s!"found character {quotedChar c} that cannot start any token"
  | missingColon => "could not find expected ':'"
  | misplacedEntry => "sequence entries are not allowed here"
  | misplacedKey => "mapping keys are not allowed here"
  | misplacedValue => "mapping values are not allowed here"
  | expectedName c => s!"expected alphabetic or numeric character, but found {quotedChar c}"
  | expectedDigit c => s!"expected a digit, but found {quotedChar c}"
  | expectedDigitOrDot c => s!"expected a digit or '.', but found {quotedChar c}"
  | expectedDigitOrSpace c => s!"expected a digit or ' ', but found {quotedChar c}"
  | expectedSpace c => s!"expected ' ', but found {quotedChar c}"
  | expectedBang c => s!"expected '!', but found {quotedChar c}"
  | expectedAngle c => s!"expected '>', but found {quotedChar c}"
  | expectedAddress c => s!"expected URI, but found {quotedChar c}"
  | expectedLineEnd c => s!"expected a comment or a line break, but found {quotedChar c}"
  | expectedHex n c => s!"expected escape sequence of {n} hexadecimal numbers, but found {quotedChar c}"
  | expectedAddressEscape c =>
    s!"expected URI escape sequence of 2 hexadecimal numbers, but found {quotedChar c}"
  | brokenAddress fault => fault.message
  | noughtIndent => "expected indentation indicator in the range 1-9, but found 0"
  | expectedBlockHeader c => s!"expected chomping or indentation indicators, but found {quotedChar c}"
  | unknownEscape c => s!"found unknown escape character {quotedChar c}"
  | unexpectedEnd => "found unexpected end of stream"
  | unexpectedSeparator => "found unexpected document separator"
  | duplicateVersion => "found duplicate YAML directive"
  | incompatibleVersion => "found incompatible YAML document (version 1.* is required)"
  | duplicateHandle handle => s!"duplicate tag handle {Text.quoted handle}"
  | undefinedHandle handle => s!"found undefined tag handle {Text.quoted handle}"
  | expectedDocument found => s!"expected '<document start>', but found {Text.quoted found}"
  | expectedContent found => s!"expected the node content, but found {Text.quoted found}"
  | expectedBlockEnd found => s!"expected <block end>, but found {Text.quoted found}"
  | expectedSequenceEnd found => s!"expected ',' or ']', but got {Text.quoted found}"
  | expectedMappingEnd found => "expected ',' or '\x7d', but got " ++ Text.quoted found
  | undefinedAlias name => s!"found undefined alias {Text.quoted name}"
  | secondAnchor => "second occurrence"
  | anotherDocument => "but found another document"
  | expectedShape wanted found => s!"expected a {wanted.name} node, but found {found.name}"
  | unknownTag tag => s!"could not determine a constructor for the tag {Text.quoted tag}"
  | unhashableKey => "found unhashable key"
  | unmergeable found =>
    s!"expected a mapping or list of mappings for merging, but found {found.name}"
  | unmergeableItem found => s!"expected a mapping for merging, but found {found.name}"
  | recursiveNode => "found unconstructable recursive node"
  | expectedSequence found => s!"expected a sequence, but found {found.name}"
  | expectedSingleMapping found => s!"expected a mapping of length 1, but found {found.name}"
  | expectedSingleItem n => s!"expected a single mapping item, but found {n} items"
  | notAscii position count first =>
    s!"failed to convert base64 data into ascii: 'ascii' codec can't encode {notAsciiText position count first}: ordinal not in range(128)"
  | brokenBase64 n =>
    s!"failed to decode base64 data: Invalid base64-encoded string: number of data characters ({n}) cannot be 1 more than a multiple of 4"
  | unpaddedBase64 => "failed to decode base64 data: Incorrect padding"

/-- A fault with its place, and the activity it interrupted with the place where that began. -/
structure Fault where
  level : Level
  during : Option (Activity × Option Mark)
  problem : Problem
  place : Mark
deriving DecidableEq, Repr

/-- What is said of a fault: the activity, the place where it began unless the problem is at that very place,
the problem, and the place of the problem. -/
def Fault.message (text : List Char) (f : Fault) : String :=
  let opening := match f.during with
    | none => []
    | some (activity, none) => [activity.text]
    | some (activity, some began) =>
      if began.line text = f.place.line text ∧ began.column = f.place.column then [activity.text]
      else [activity.text, began.render text]
  String.intercalate "\n" (opening ++ [f.problem.text, f.place.render text])

/-- What can be wrong with a scalar that its tag does not check beforehand. -/
inductive ScalarFault where
  | integer (base : Nat) (text : List Char)
  | longInteger (digits : Nat)
  | decimal (text : List Char)
  | calendar (fault : CalendarFault)
  | codePoint
  | hugeCodePoint
  | hugePlace
  | emptyNumber
  | truthWord
  | timestamp
  | notText
deriving DecidableEq, Repr

/-- Quoted texts in messages about whole numbers are cut to this length. -/
def longestQuote : Nat := 200

/-- What is said of such a scalar. Five of the causes have no wording. -/
def ScalarFault.message? : ScalarFault → Option String
  | integer base text =>
    some s!"invalid literal for int() with base {base}: {String.ofList ((Text.quotedChars text).take longestQuote)}"
  | longInteger digits => some (Text.tooLongText digits)
  | decimal text => some s!"could not convert string to float: {String.ofList (Text.quotedChars text)}"
  | calendar fault => some fault.message
  | codePoint => some "chr() arg not in range(0x110000)"
  | notText => some "expected string or bytes-like object, got 'list'"
  | hugeCodePoint | hugePlace | emptyNumber | truthWord | timestamp => none

/-- Why a text is not read as data: a character that may not occur, a fault of its form, or a scalar that does
not fit its tag. -/
inductive Failure where
  | character (c : Char) (position : Nat)
  | form (fault : Fault)
  | scalar (fault : ScalarFault)
deriving DecidableEq, Repr

/-- What is said of a failure in a text. -/
def Failure.message? (text : List Char) : Failure → Option String
  | character c position =>
    some s!"unacceptable character #x{String.ofList (Text.hex 4 c.toNat)}: special characters are not allowed\n  in \"<unicode string>\", position {position}"
  | form fault => some (fault.message text)
  | scalar fault => fault.message?

/-- Items made out of a text, and the failure that follows the last of them if one does. What was made before a failure is
there, so whoever takes the items meets the failure only after them. -/
structure Supply (α : Type) where
  items : List α
  failure : Option Failure := none
deriving Repr

end AccessPolicy.Yaml
