import AccessPolicy.Yaml.Token.Property

namespace AccessPolicy.Yaml

/-- The breaks of a run of empty lines in a quoted scalar, with the blanks around them. No document mark may
stand at the start of a line. -/
def quotedBreaks (began : Mark) : Nat → Cursor → Except Failure (List Char × Cursor)
  | 0, c => .ok ([], c)
  | steps + 1, c =>
    if c.atDocumentMark then tokenFault .quotedScalar began .unexpectedSeparator c.mark
    else
      let c := c.skip fun ch => ch == ' ' || ch == '\t'
      if isBreak c.next then do
        let (ending, c) := c.lineBreak
        let (more, c) ← quotedBreaks began steps c
        return (ending ++ more, c)
      else .ok ([], c)

/-- What a line break followed by further breaks comes to: a single line feed folds into a space. -/
def foldBreaks (first more : List Char) : List Char :=
  (if first != ['\n'] then first else if more.isEmpty then [' '] else []) ++ more

/-- Blanks or line breaks inside a quoted scalar. -/
def quotedSpaces (began : Mark) (c : Cursor) : Except Failure (List Char × Cursor) :=
  let blanks := c.run fun ch => ch == ' ' || ch == '\t'
  let c := c.advanceBy blanks.length
  if c.rest.isEmpty then tokenFault .quotedScalar began .unexpectedEnd c.mark
  else if isBreak c.next then do
    let (first, c) := c.lineBreak
    let (more, c) ← quotedBreaks began (c.rest.length + 1) c
    return (foldBreaks first more, c)
  else .ok (blanks, c)

/-- What the short escapes of a double-quoted scalar stand for. -/
def shortEscape (c : Char) : Option Char :=
  match c with
  | '0' => some '\x00'
  | 'a' => some '\x07'
  | 'b' => some '\x08'
  | 't' | '\t' => some '\t'
  | 'n' => some '\n'
  | 'v' => some '\x0b'
  | 'f' => some '\x0c'
  | 'r' => some '\r'
  | 'e' => some '\x1b'
  | ' ' => some ' '
  | '"' => some '"'
  | '\\' => some '\\'
  | '/' => some '/'
  | 'N' => some '\x85'
  | '_' => some '\u00a0'
  | 'L' => some '\u2028'
  | 'P' => some '\u2029'
  | _ => none

/-- How many hexadecimal digits follow an escape letter. -/
def escapeWidth (c : Char) : Option Nat :=
  match c with
  | 'x' => some 2
  | 'u' => some 4
  | 'U' => some 8
  | _ => none

/-- The character of a code point. Half of a pair stands for no character of its own. -/
def ofCodePoint (n : Nat) : Except Failure Char :=
  if 0x7fffffff < n then .error (.scalar .hugeCodePoint)
  else if 0x10ffff < n then .error (.scalar .codePoint)
  else if 0xd800 ≤ n && n < 0xe000 then .ok '\ufffd'
  else .ok (Char.ofNat n)

/-- The second half of a pair, if an escape of one comes next. -/
def secondHalf? (c : Cursor) : Option Nat :=
  match c.rest with
  | '\\' :: 'u' :: digits =>
    let n := hexNumber (digits.take 4)
    if 4 ≤ (digits.takeWhile isHexDigit).length && 0xdc00 ≤ n && n < 0xe000 then some n else none
  | _ => none

/-- The character of a code point that has been read, or of the pair of which it is the first half. -/
def joinHalves (n : Nat) (c : Cursor) : Except Failure (Char × Cursor) := do
  match if 0xd800 ≤ n && n < 0xdc00 then secondHalf? c else none with
  | some second => return (Char.ofNat (0x10000 + (n - 0xd800) * 1024 + (second - 0xdc00)), c.advanceBy 6)
  | none => return (← ofCodePoint n, c)

/-- What an escape of a double-quoted scalar stands for; the backslash has been read. An escaped line break
stands for nothing. -/
def quotedEscape (began : Mark) (c : Cursor) : Except Failure (List Char × Cursor) :=
  match shortEscape c.next, escapeWidth c.next with
  | some ch, _ => .ok ([ch], c.advance)
  | none, some width =>
    let c := c.advance
    match (List.range width).find? fun k => !isHexDigit (c.peek k) with
    | some k => tokenFault .doubleQuotedScalar began (.expectedHex width (c.peek k)) c.mark
    | none => do
      let (ch, c) ← joinHalves (hexNumber (c.rest.take width)) (c.advanceBy width)
      return ([ch], c)
  | none, none =>
    if isBreak c.next then quotedBreaks began (c.rest.length + 1) c.lineBreak.2
    else tokenFault .doubleQuotedScalar began (.unknownEscape c.next) c.mark

/-- The characters of a quoted scalar up to a blank, a line break, the closing quote or the end of the text. -/
def quotedPiece (double : Bool) (began : Mark) : Nat → Cursor → Except Failure (List Char × Cursor)
  | 0, c => .ok ([], c)
  | steps + 1, c => do
    let piece := c.run fun ch => !(isGap ch || ch == '\'' || ch == '"' || ch == '\\')
    let c := c.advanceBy piece.length
    if !double && c.next == '\'' && c.peek 1 == '\'' then
      let (more, c) ← quotedPiece double began steps (c.advanceBy 2)
      return (piece ++ '\'' :: more, c)
    else if (double && c.next == '\'') || (!double && (c.next == '"' || c.next == '\\')) then
      let (more, stop) ← quotedPiece double began steps c.advance
      return (piece ++ c.next :: more, stop)
    else if double && c.next == '\\' then
      let (escaped, c) ← quotedEscape began c.advance
      let (more, c) ← quotedPiece double began steps c
      return (piece ++ escaped ++ more, c)
    else return (piece, c)

/-- The text of a quoted scalar up to its closing quote. -/
def quotedText (quote : Char) (began : Mark) : Nat → Cursor → Except Failure (List Char × Cursor)
  | 0, c => .ok ([], c)
  | steps + 1, c => do
    let (piece, c) ← quotedPiece (quote == '"') began (c.rest.length + 1) c
    if c.next == quote then return (piece, c)
    else
      let (spaces, c) ← quotedSpaces began c
      let (more, c) ← quotedText quote began steps c
      return (piece ++ spaces ++ more, c)

/-- A quoted scalar. -/
def readQuoted (c : Cursor) : Except Failure (Token × Cursor) := do
  let began := c.mark
  let quote := c.next
  let (text, c) ← quotedText quote began (c.rest.length + 1) c.advance
  let c := c.advance
  return (⟨.scalar false (String.ofList text), began, c.mark⟩, c)

/-- Whether the character at a place ends a plain scalar. Inside brackets more characters do. -/
def endsPlain (inFlow : Bool) (ch next : Char) : Bool :=
  isGap ch
    || (ch == ':' && (isGap next || (inFlow && ",[]\x7b\x7d".toList.contains next)))
    || (inFlow && ",?[]\x7b\x7d".toList.contains ch)

/-- The characters of a plain scalar up to one that ends it. -/
def plainPiece (inFlow : Bool) : List Char → List Char
  | [] => []
  | ch :: rest =>
    if endsPlain inFlow ch (rest.headD endMark) then [] else ch :: plainPiece inFlow rest

/-- The breaks of a run of empty lines in a plain scalar; none when a document mark stands at the start of a
line. -/
def plainBreaks : Nat → Cursor → Option (List Char) × Cursor
  | 0, c => (some [], c)
  | steps + 1, c =>
    let c := c.skip (· == ' ')
    if isBreak c.next then
      let (ending, c) := c.lineBreak
      if c.atDocumentMark then (none, c)
      else
        let (more, c) := plainBreaks steps c
        (more.map (ending ++ ·), c)
    else (some [], c)

/-- Blanks or line breaks after a piece of a plain scalar, as they count inside it, and whether there was a line
break. Nothing is returned where the scalar ends. -/
def plainSpaces (c : Cursor) : List Char × Bool × Cursor :=
  let blanks := c.run (· == ' ')
  let c := c.advanceBy blanks.length
  if isBreak c.next then
    let (first, c) := c.lineBreak
    if c.atDocumentMark then ([], true, c)
    else
      match plainBreaks (c.rest.length + 1) c with
      | (none, c) => ([], true, c)
      | (some more, c) => (foldBreaks first more, true, c)
  else (blanks, false, c)

/-- What has been read of a plain scalar: its text from the end to the start, where it ends, where reading goes
on, and whether a line break was the last thing read. -/
structure PlainPart where
  reversed : List Char
  stop : Mark
  after : Cursor
  broke : Bool

/-- Reads pieces of a plain scalar, the spaces before each counting once a piece follows them. -/
def plainFrom (inFlow : Bool) (indent : Int) : Nat → List Char → PlainPart → PlainPart
  | 0, _, part => part
  | steps + 1, spaces, part =>
    let c := part.after
    if c.next == '#' then part
    else
      let piece := plainPiece inFlow c.rest
      if piece.isEmpty then part
      else
        let c := c.advanceBy piece.length
        let (more, broke, after) := plainSpaces c
        let part := ⟨piece.reverse ++ spaces.reverse ++ part.reversed, c.mark, after, broke⟩
        if more.isEmpty || after.next == '#' || (!inFlow && after.mark.column < indent) then part
        else plainFrom inFlow indent steps more part

/-- A plain scalar, and whether a simple key may follow it because a line ended. -/
def readPlain (inFlow : Bool) (indent : Int) (c : Cursor) : Token × Bool × Cursor :=
  let part := plainFrom inFlow indent (c.rest.length + 1) [] ⟨[], c.mark, c, false⟩
  (⟨.scalar true (String.ofList part.reversed.reverse), c.mark, part.stop⟩, part.broke, part.after)

/-- What becomes of the line breaks at the end of a block scalar. -/
inductive Chomping where
  | clip
  | strip
  | keep
deriving DecidableEq

/-- The chomping indicator here, if there is one. -/
def readChomping (c : Cursor) : Chomping × Cursor :=
  if c.next == '+' then (.keep, c.advance)
  else if c.next == '-' then (.strip, c.advance)
  else (.clip, c)

/-- The indentation indicator here, if there is one. -/
def readIncrement (began : Mark) (c : Cursor) : Except Failure (Option Nat × Cursor) :=
  if c.next == '0' then tokenFault .blockScalar began .noughtIndent c.mark
  else if c.next.isDigit then .ok (some (c.next.toNat - 48), c.advance)
  else .ok (none, c)

/-- The indicators of a block scalar, in either order. -/
def readBlockHeader (began : Mark) (c : Cursor) : Except Failure (Chomping × Option Nat × Cursor) := do
  let (chomping, c) := readChomping c
  let (increment, c) ← readIncrement began c
  let (chomping, c) :=
    if chomping = .clip ∧ increment.isSome then readChomping c else (chomping, c)
  if !isSpaceOrEnd c.next then tokenFault .blockScalar began (.expectedBlockHeader c.next) c.mark
  else return (chomping, increment, c)

/-- The leading empty lines of a block scalar: their breaks, the greatest column that spaces reach, the end of
the last break, and where the first other line goes on. -/
def leadingLines (breaks : List Char) (widest : Nat) (stop : Mark) :
    Nat → Cursor → List Char × Nat × Mark × Cursor
  | 0, c => (breaks, widest, stop, c)
  | steps + 1, c =>
    if c.next == ' ' then
      let c := c.advance
      leadingLines breaks (max widest c.mark.column) stop steps c
    else if isBreak c.next then
      let (ending, c) := c.lineBreak
      leadingLines (breaks ++ ending) widest c.mark steps c
    else (breaks, widest, stop, c)

/-- Spaces up to a column. -/
def skipIndent (indent : Nat) : Nat → Cursor → Cursor
  | 0, c => c
  | steps + 1, c => if c.mark.column < indent && c.next == ' ' then skipIndent indent steps c.advance else c

/-- Empty lines of a block scalar of known indentation, up to the indentation of the next line. -/
def blockBreaks (indent : Nat) : Nat → Mark → Cursor → List Char × Mark × Cursor
  | 0, stop, c => ([], stop, c)
  | steps + 1, stop, c =>
    let c := skipIndent indent indent c
    if isBreak c.next then
      let (ending, c) := c.lineBreak
      let (more, stop, c) := blockBreaks indent steps c.mark c
      (ending ++ more, stop, c)
    else ([], stop, c)

/-- A block scalar as far as it has been read: its text from the end to the start, the break of its last line, the
breaks after it. -/
structure BlockPart where
  reversed : List Char
  ending : List Char
  breaks : List Char
  stop : Mark
  after : Cursor

/-- Reads the lines of a block scalar. In a folded one a single line feed between two lines that start with no
blank becomes a space, or nothing when empty lines follow. -/
def blockLines (folded : Bool) (indent : Nat) : Nat → BlockPart → BlockPart
  | 0, part => part
  | steps + 1, part =>
    let c := part.after
    if c.mark.column != indent || c.rest.isEmpty then part
    else
      let startsBlank := c.next == ' ' || c.next == '\t'
      let line := c.run (!isLineEnd ·)
      let (ending, c) := (c.advanceBy line.length).lineBreak
      let (breaks, stop, c) := blockBreaks indent (c.rest.length + 1) c.mark c
      let reversed := line.reverse ++ part.breaks.reverse ++ part.reversed
      if c.mark.column != indent || c.rest.isEmpty then ⟨reversed, ending, breaks, stop, c⟩
      else
        let nextBlank := c.next == ' ' || c.next == '\t'
        let glue :=
          if folded && ending == ['\n'] && !startsBlank && !nextBlank then
            if breaks.isEmpty then [' '] else []
          else ending
        blockLines folded indent steps ⟨glue.reverse ++ reversed, ending, breaks, stop, c⟩

/-- A block scalar below a header, inside a block of the given indentation. -/
def readBlock (outer : Int) (c : Cursor) : Except Failure (Token × Cursor) := do
  let began := c.mark
  let folded := c.next == '>'
  let (chomping, increment, c) ← readBlockHeader began c.advance
  let c ← skipLineRest .blockScalar began c
  let least := max (outer + 1).toNat 1
  let steps := c.rest.length + 1
  let (indent, breaks, stop, c) := match increment with
    | none =>
      let (breaks, widest, stop, c) := leadingLines [] 0 c.mark steps c
      (max least widest, breaks, stop, c)
    | some n =>
      let indent := least + n - 1
      let (breaks, stop, c) := blockBreaks indent steps c.mark c
      (indent, breaks, stop, c)
  let part := blockLines folded indent steps ⟨[], [], breaks, stop, c⟩
  let text := part.reversed.reverse
    ++ (if chomping = .strip then [] else part.ending)
    ++ (if chomping = .keep then part.breaks else [])
  return (⟨.scalar false (String.ofList text), began, part.stop⟩, part.after)

end AccessPolicy.Yaml
