namespace AccessPolicy.Yaml

/-- What separates lines. -/
def isBreak (c : Char) : Bool :=
  c == '\n' || c == '\r' || c == '\x85' || c == '\u2028' || c == '\u2029'

/-- Stands for the end of the text when a character is asked for beyond it. It never occurs in the text. -/
def endMark : Char := '\x00'

/-- A line break or the end of the text. -/
def isLineEnd (c : Char) : Bool :=
  isBreak c || c == endMark

/-- A space, a line break or the end of the text. -/
def isSpaceOrEnd (c : Char) : Bool :=
  c == ' ' || isLineEnd c

/-- What may follow an indicator: a space, a tab, a line break or the end of the text. -/
def isGap (c : Char) : Bool :=
  c == '\t' || isSpaceOrEnd c

/-- Whether the line ends after a character, given what follows it. A carriage return before a line feed does
not end the line; the line feed does. -/
def endsLine (c : Char) (rest : List Char) : Bool :=
  if c == '\r' then rest.head? != some '\n' else isBreak c

/-- How many lines end in a text. -/
def countBreaks : List Char → Nat
  | [] => 0
  | c :: rest => (if endsLine c rest then 1 else 0) + countBreaks rest

/-- A place in a text: how many characters and line ends are left from there, and its column. It is counted from the end, so
it stays the same whatever stands before the text; lines and columns are told from it once the whole text is known. -/
structure Mark where
  charsLeft : Nat
  linesLeft : Nat
  column : Nat
deriving DecidableEq, Repr, Inhabited

/-- A text from some place on. -/
structure Cursor where
  rest : List Char
  mark : Mark
deriving Repr, Inhabited

namespace Cursor

/-- The start of a text. -/
def start (text : List Char) : Cursor :=
  ⟨text, ⟨text.length, countBreaks text, 0⟩⟩

/-- The character `k` places ahead. -/
def peek (c : Cursor) (k : Nat) : Char :=
  c.rest.getD k endMark

/-- The next character. -/
def next (c : Cursor) : Char :=
  c.peek 0

/-- One character further. A byte order mark takes no column. -/
def advance (c : Cursor) : Cursor :=
  match c.rest with
  | [] => c
  | ch :: rest =>
    if endsLine ch rest then ⟨rest, ⟨c.mark.charsLeft - 1, c.mark.linesLeft - 1, 0⟩⟩
    else if ch == '\ufeff' then ⟨rest, { c.mark with charsLeft := c.mark.charsLeft - 1 }⟩
    else ⟨rest, { c.mark with charsLeft := c.mark.charsLeft - 1, column := c.mark.column + 1 }⟩

/-- Some characters further. -/
def advanceBy : Nat → Cursor → Cursor
  | 0, c => c
  | n + 1, c => advanceBy n c.advance

/-- The longest run of characters of a class from here. -/
def run (c : Cursor) (p : Char → Bool) : List Char :=
  c.rest.takeWhile p

/-- Past the longest run of characters of a class. -/
def skip (c : Cursor) (p : Char → Bool) : Cursor :=
  c.advanceBy (c.run p).length

/-- The line break here, if there is one, as it counts in a value, and the place after it. The breaks of ASCII
and the next-line character all count as a line feed. -/
def lineBreak (c : Cursor) : List Char × Cursor :=
  match c.rest with
  | '\r' :: '\n' :: _ => (['\n'], c.advanceBy 2)
  | ch :: _ =>
    if ch == '\r' || ch == '\n' || ch == '\x85' then (['\n'], c.advance)
    else if ch == '\u2028' || ch == '\u2029' then ([ch], c.advance)
    else ([], c)
  | [] => ([], c)

/-- Whether three dashes or three dots followed by a gap stand here. -/
def atDocumentMark (c : Cursor) : Bool :=
  match c.rest with
  | '-' :: '-' :: '-' :: _ | '.' :: '.' :: '.' :: _ => isGap (c.peek 3)
  | _ => false

end Cursor

namespace Mark

/-- How many characters of the text stand before the place. -/
def index (text : List Char) (m : Mark) : Nat :=
  text.length - m.charsLeft

/-- How many lines of the text end before the place. -/
def line (text : List Char) (m : Mark) : Nat :=
  countBreaks text - m.linesLeft

/-- At most this many characters are shown on each side of a place. -/
def window : Nat := 36

/-- What is shown of a side with more characters than fit; an ellipsis takes the room of the rest. -/
def windowCut : Nat := 32

/-- The line around a place, cut to the window, with a caret under the place. -/
def snippet (text : List Char) (m : Mark) : String :=
  let before := (text.take (m.index text)).reverse.takeWhile (!isLineEnd ·)
  let after := (text.drop (m.index text)).takeWhile (!isLineEnd ·)
  let (head, before) :=
    if window < before.length then (" ... ".toList, before.take windowCut) else ([], before)
  let (tail, after) :=
    if window < after.length then (" ... ".toList, after.take windowCut) else ([], after)
  let indent := List.replicate 4 ' '
  String.ofList (indent ++ head ++ before.reverse ++ after ++ tail ++ '\n' ::
    List.replicate (4 + before.length + head.length) ' ' ++ ['^'])

/-- A place as messages tell it: lines and columns counted from one, and the line itself. -/
def render (text : List Char) (m : Mark) : String :=
  s!"  in \"<unicode string>\", line {m.line text + 1}, column {m.column + 1}:\n{m.snippet text}"

end Mark

end AccessPolicy.Yaml
