import AccessPolicy.Yaml.Fault
import AccessPolicy.Yaml.Token.Scalar

namespace AccessPolicy.Yaml

/-- A token that may turn out to start a key: how many tokens stand before it, and where it starts. A required
one starts a line of a block mapping, so it has to be a key. -/
structure PossibleKey where
  position : Nat
  required : Bool
  place : Mark
deriving DecidableEq, Repr

/-- How far a text has been cut into tokens. -/
structure Cutter where
  /-- The text from here on. -/
  cursor : Cursor
  /-- The tokens so far, the last one first. -/
  made : List Token
  /-- The column of the innermost block, and those of the blocks around it. No block has column -1. -/
  indent : Int
  outer : List Int
  /-- The key that may have started at each level of brackets, the innermost level first. -/
  keys : List (Option PossibleKey)
  /-- Whether a key may start here. -/
  keyAllowed : Bool
  finished : Bool

namespace Cutter

/-- At the start of a text. A byte order mark there is no part of it. -/
def start (text : List Char) : Cutter :=
  let c := Cursor.start text
  { cursor := if c.next == '\ufeff' then c.advance else c
    made := []
    indent := -1
    outer := []
    keys := [none]
    keyAllowed := true
    finished := false }

/-- Where the text goes on. -/
def here (s : Cutter) : Mark :=
  s.cursor.mark

/-- Whether this is inside brackets. -/
def inFlow (s : Cutter) : Bool :=
  1 < s.keys.length

/-- Adds a token. -/
def add (s : Cutter) (token : Token) : Cutter :=
  { s with made := token :: s.made }

/-- Adds a token that takes no text. -/
def addAt (s : Cutter) (word : Word) (place : Mark) : Cutter :=
  s.add ⟨word, place, place⟩

/-- Adds a token that takes some characters. -/
def take (s : Cutter) (word : Word) (size : Nat) : Cutter :=
  let after := s.cursor.advanceBy size
  { s.add ⟨word, s.here, after.mark⟩ with cursor := after }

/-- Puts a token before those that stand at a position. -/
def insertAt (s : Cutter) (position : Nat) (word : Word) (place : Mark) : Cutter :=
  { s with made := s.made.insertIdx (s.made.length - position) ⟨word, place, place⟩ }

/-- A fault that interrupts nothing. -/
def refuse {α : Type} (s : Cutter) (problem : Problem) : Except Failure α :=
  .error (.form ⟨.token, none, problem, s.here⟩)

/-- A required key without its colon. -/
def keyFault {α : Type} (s : Cutter) (key : PossibleKey) : Except Failure α :=
  tokenFault .simpleKey key.place .missingColon s.here

/-- A key may be at most this many characters away from its colon. -/
def longestKey : Nat := 1024

/-- Whether a key cannot get its colon any more: it has to stand on the same line and not too far away. -/
def isStale (s : Cutter) (key : PossibleKey) : Bool :=
  key.place.linesLeft != s.here.linesLeft || longestKey < key.place.charsLeft - s.here.charsLeft

/-- Forgets the keys that cannot get their colon any more, the outermost first. -/
def dropStale (s : Cutter) : Except Failure Cutter := do
  let keys ← s.keys.reverse.mapM fun slot => match slot with
    | none => Except.ok none
    | some key =>
      if s.isStale key then if key.required then s.keyFault key else Except.ok none
      else Except.ok (some key)
  return { s with keys := keys.reverse }

/-- Forgets the key of the innermost level. -/
def dropKey (s : Cutter) : Except Failure Cutter :=
  match s.keys with
  | some key :: rest => if key.required then s.keyFault key else .ok { s with keys := none :: rest }
  | _ => .ok s

/-- Remembers that a key may start here. -/
def noteKey (s : Cutter) : Except Failure Cutter :=
  if s.keyAllowed then do
    let required := !s.inFlow && s.indent == Int.ofNat s.here.column
    let s ← s.dropKey
    return { s with keys := some ⟨s.made.length, required, s.here⟩ :: s.keys.drop 1 }
  else .ok s

/-- Ends the blocks that are indented further than a column. -/
def unwind (column : Int) : Nat → Cutter → Cutter
  | 0, s => s
  | steps + 1, s =>
    if !s.inFlow && column < s.indent then
      unwind column steps
        { s.addAt .blockEnd s.here with indent := s.outer.headD (-1), outer := s.outer.drop 1 }
    else s

/-- Ends the blocks that are indented further than a column. -/
def unwindTo (s : Cutter) (column : Int) : Cutter :=
  unwind column (s.outer.length + 1) s

/-- Starts a block at a column unless one stands there. -/
def indentTo (s : Cutter) (column : Nat) : Option Cutter :=
  if s.indent < column then some { s with indent := column, outer := s.indent :: s.outer } else none

/-- Past spaces, comments and line breaks. Outside brackets a key may start on a new line. -/
def skipToToken : Nat → Cutter → Cutter
  | 0, s => s
  | steps + 1, s =>
    let c := s.cursor.skip (· == ' ')
    let c := if c.next == '#' then c.skip (!isLineEnd ·) else c
    if isBreak c.next then
      skipToToken steps { s with cursor := c.lineBreak.2, keyAllowed := s.keyAllowed || !s.inFlow }
    else { s with cursor := c }

/-- The end of the text. -/
def takeEnd (s : Cutter) : Except Failure Cutter := do
  let s ← (s.unwindTo (-1)).dropKey
  return { s.addAt .streamEnd s.here with keyAllowed := false, keys := [none], finished := true }

/-- A directive. -/
def takeDirective (s : Cutter) : Except Failure Cutter := do
  let s ← (s.unwindTo (-1)).dropKey
  let (token, after) ← readDirective s.cursor
  return { s.add token with cursor := after, keyAllowed := false }

/-- The mark that starts or ends a document. -/
def takeDocumentMark (s : Cutter) (word : Word) : Except Failure Cutter := do
  let s ← (s.unwindTo (-1)).dropKey
  return { s with keyAllowed := false }.take word 3

/-- An opening bracket. -/
def takeOpening (s : Cutter) (word : Word) : Except Failure Cutter := do
  let s ← s.noteKey
  return { s with keys := none :: s.keys, keyAllowed := true }.take word 1

/-- A closing bracket. -/
def takeClosing (s : Cutter) (word : Word) : Except Failure Cutter := do
  let s ← s.dropKey
  let keys := if s.inFlow then s.keys.drop 1 else s.keys
  return { s with keys, keyAllowed := false }.take word 1

/-- A comma between brackets. -/
def takeComma (s : Cutter) : Except Failure Cutter := do
  let s ← s.dropKey
  return { s with keyAllowed := true }.take .flowEntry 1

/-- Starts a block of a kind at a column unless one stands there. -/
def openBlock (s : Cutter) (word : Word) (column : Nat) : Cutter :=
  match s.indentTo column with
  | some s => s.addAt word s.here
  | none => s

/-- The dash of a sequence. Inside brackets it is left to be found out of place. -/
def takeDash (s : Cutter) : Except Failure Cutter := do
  if !s.inFlow && !s.keyAllowed then s.refuse .misplacedEntry
  else
    let s := if s.inFlow then s else s.openBlock .blockSequenceStart s.here.column
    let s ← s.dropKey
    return { s with keyAllowed := true }.take .blockEntry 1

/-- The question mark of a key. -/
def takeKeyMark (s : Cutter) : Except Failure Cutter := do
  if !s.inFlow && !s.keyAllowed then s.refuse .misplacedKey
  else
    let s := if s.inFlow then s else s.openBlock .blockMappingStart s.here.column
    let s ← s.dropKey
    return { s with keyAllowed := !s.inFlow }.take .key 1

/-- Makes a key of what may have started one. -/
def settleKey (s : Cutter) (key : PossibleKey) : Cutter :=
  let s := { s with keys := none :: s.keys.drop 1 }.insertAt key.position .key key.place
  let s := { s with keyAllowed := false }
  if s.inFlow then s
  else match s.indentTo key.place.column with
    | some s => s.insertAt key.position .blockMappingStart key.place
    | none => s

/-- The colon of a value, after a simple key or on its own. -/
def takeColon (s : Cutter) : Except Failure Cutter := do
  match s.keys with
  | some key :: _ => return (s.settleKey key).take .value 1
  | _ =>
    if !s.inFlow && !s.keyAllowed then s.refuse .misplacedValue
    else
      let s := if s.inFlow then s else s.openBlock .blockMappingStart s.here.column
      let s ← s.dropKey
      return { s with keyAllowed := !s.inFlow }.take .value 1

/-- A token that may start a key and is followed by none. -/
def takeKeyStart (s : Cutter) (read : Cursor → Except Failure (Token × Cursor)) :
    Except Failure Cutter := do
  let s ← s.noteKey
  let (token, after) ← read s.cursor
  return { s.add token with cursor := after, keyAllowed := false }

/-- A block scalar. A key may follow it. -/
def takeBlock (s : Cutter) : Except Failure Cutter := do
  let s ← s.dropKey
  let (token, after) ← readBlock s.indent s.cursor
  return { s.add token with cursor := after, keyAllowed := true }

/-- A plain scalar. A key may follow it on another line. -/
def takePlain (s : Cutter) : Except Failure Cutter := do
  let s ← s.noteKey
  let (token, broke, after) := readPlain s.inFlow (s.indent + 1) s.cursor
  return { s.add token with cursor := after, keyAllowed := broke }

/-- Whether a plain scalar may start here. A dash, a question mark or a colon may start one when something
follows it at once; inside brackets only the dash may. -/
def plainStarts (s : Cutter) : Bool :=
  let ch := s.cursor.next
  !(isGap ch || "-?:,[]\x7b\x7d#&*!|>'\"%@`".toList.contains ch)
    || (!isGap (s.cursor.peek 1) && (ch == '-' || (!s.inFlow && (ch == '?' || ch == ':'))))

/-- The next token, with those that indentation adds before it. -/
def takeToken (s : Cutter) : Except Failure Cutter := do
  let s ← (skipToToken (s.cursor.rest.length + 1) s).dropStale
  let s := s.unwindTo s.here.column
  let c := s.cursor
  let followed := s.inFlow || isGap (c.peek 1)
  if c.rest.isEmpty then s.takeEnd
  else if c.next == '%' && c.mark.column == 0 then s.takeDirective
  else if c.next == '-' && c.mark.column == 0 && c.atDocumentMark then s.takeDocumentMark .documentStart
  else if c.next == '.' && c.mark.column == 0 && c.atDocumentMark then s.takeDocumentMark .documentEnd
  else match c.next with
    | '[' => s.takeOpening .flowSequenceStart
    | '\x7b' => s.takeOpening .flowMappingStart
    | ']' => s.takeClosing .flowSequenceEnd
    | '\x7d' => s.takeClosing .flowMappingEnd
    | ',' => s.takeComma
    | '*' | '&' => s.takeKeyStart readAnchor
    | '!' => s.takeKeyStart readTag
    | '\'' | '"' => s.takeKeyStart readQuoted
    | ch =>
      if ch == '-' && isGap (c.peek 1) then s.takeDash
      else if ch == '?' && followed then s.takeKeyMark
      else if ch == ':' && followed then s.takeColon
      else if (ch == '|' || ch == '>') && !s.inFlow then s.takeBlock
      else if s.plainStarts then s.takePlain
      else .error (.form ⟨.token, some (.nextToken, none), .strayCharacter ch, s.here⟩)

/-- The tokens that are settled: those before the first that may still turn out to be a key. -/
def settled (s : Cutter) : List Token :=
  let tokens := s.made.reverse
  match s.keys.reverse.findSome? id with
  | some key => tokens.take key.position
  | none => tokens

/-- Takes tokens to the end of the text. When one cannot be taken, those settled before remain. -/
def run : Nat → Cutter → Supply Token
  | 0, s => { items := s.made.reverse }
  | steps + 1, s =>
    match s.takeToken >>= dropStale with
    | .error failure => { items := s.settled, failure := some failure }
    | .ok next => if next.finished then { items := next.made.reverse } else run steps next

end Cutter

/-- The tokens of a text, behind one that marks its start. Each takes at least one character but the last, which marks
the end. -/
def tokens (text : List Char) : Supply Token :=
  let taken := Cutter.run (text.length + 1) (Cutter.start text)
  let start := (Cursor.start text).mark
  { taken with items := ⟨.streamStart, start, start⟩ :: taken.items }

end AccessPolicy.Yaml
