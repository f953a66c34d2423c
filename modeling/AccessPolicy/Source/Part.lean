import AccessPolicy.Text.Ranges
import AccessPolicy.Text.Line

namespace AccessPolicy.Source

open Text (Line)

/-- What a line is for the cutting: it opens a document, closes one, may stand before one, or is part of one. -/
inductive LineKind where
  | opening
  | closing
  | prologue
  | content
deriving DecidableEq, Repr

/-- Whether a line starts with a mark that ends there or is followed by a blank. -/
def hasMark (mark : List Char) (line : Line) : Bool :=
  mark.isPrefixOf line && ((line.drop mark.length).head?.all Text.isBlank)

/-- Whether a line may stand before a document: it is blank, a comment or a directive. -/
def isPrologue (line : Line) : Bool :=
  let bare := Text.strip line
  bare.isEmpty || bare.head? == some '#' || line.head? == some '%'

/-- What a line is. Marks stand at the first column, where no document can hold them, so a document can be cut out without
being understood. -/
def lineKind (line : Line) : LineKind :=
  if hasMark ['-', '-', '-'] line then .opening
  else if hasMark ['.', '.', '.'] line then .closing
  else if isPrologue line then .prologue
  else .content

/-- The lines of one document, and how many lines stand before them. -/
structure Part where
  start : Nat
  lines : List Line
deriving DecidableEq, Repr

/-- The text of a part. -/
def Part.text (p : Part) : List Char := p.lines.flatten

/-- What has been seen of the part to come: its lines in reverse, whether they hold more than a prologue, and how
many lines stand before it. -/
structure Pending where
  start : Nat
  seen : List Line
  hasContent : Bool
deriving DecidableEq, Repr

namespace Pending

/-- Nothing seen, behind a number of lines. -/
def startingAt (start : Nat) : Pending := ⟨start, [], false⟩

/-- How many lines stand before the next one. -/
def position (p : Pending) : Nat := p.start + p.seen.length

/-- The part that has been seen. A prologue alone is none. -/
def part? (p : Pending) : Option Part :=
  if p.hasContent then some ⟨p.start, p.seen.reverse⟩ else none

/-- Takes one more line, and gives the part that it completes. -/
def step (p : Pending) (line : Line) : Pending × Option Part :=
  match lineKind line with
  | .opening =>
    if p.hasContent then (⟨p.position, [line], true⟩, p.part?) else (⟨p.start, line :: p.seen, true⟩, none)
  | .closing => (startingAt (p.position + 1), part? ⟨p.start, line :: p.seen, p.hasContent⟩)
  | .prologue => (⟨p.start, line :: p.seen, p.hasContent⟩, none)
  | .content => (⟨p.start, line :: p.seen, true⟩, none)

/-- The parts that lines complete, and what is seen of the next part. -/
def run (p : Pending) : List Line → List Part × Pending
  | [] => ([], p)
  | line :: rest =>
    let (next, part) := p.step line
    let (parts, last) := next.run rest
    (part.toList ++ parts, last)

/-- The parts of lines that end. -/
def parts (p : Pending) (lines : List Line) : List Part :=
  let (parts, last) := p.run lines
  parts ++ last.part?.toList

end Pending

/-- The parts of lines. -/
def parts (lines : List Line) : List Part :=
  (Pending.startingAt 0).parts lines

end AccessPolicy.Source
