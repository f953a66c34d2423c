import AccessPolicy.Yaml.Fault
import AccessPolicy.Yaml.Token

namespace AccessPolicy.Yaml

/-- The letters of names: ASCII letters and digits, the dash and the underscore. -/
def isNameChar (c : Char) : Bool :=
  c.isAlphanum || c == '-' || c == '_'

/-- The characters of tags. -/
def isAddressChar (c : Char) : Bool :=
  c.isAlphanum || "-;/?:@&=+$,_.!~*'()[]%".toList.contains c

/-- Whether a character is a hexadecimal digit of ASCII. -/
def isHexDigit (c : Char) : Bool :=
  c.isDigit || ('a' ≤ c && c ≤ 'f') || ('A' ≤ c && c ≤ 'F')

/-- The number that hexadecimal digits denote. -/
def hexNumber (digits : List Char) : Nat :=
  Text.ofBaseDigits 16 (digits.filterMap Text.baseDigit?)

/-- A fault among the tokens, during an activity that began at a place. -/
def tokenFault {α : Type} (activity : Activity) (began : Mark) (problem : Problem) (place : Mark) :
    Except Failure α :=
  .error (.form ⟨.token, some (activity, some began), problem, place⟩)

/-- The rest of a line after a token that takes the whole line: blanks, a comment, the line break. -/
def skipLineRest (activity : Activity) (began : Mark) (c : Cursor) : Except Failure Cursor :=
  let c := c.skip (· == ' ')
  let c := if c.next == '#' then c.skip (!isLineEnd ·) else c
  if isLineEnd c.next then .ok c.lineBreak.2
  else tokenFault activity began (.expectedLineEnd c.next) c.mark

/-- An anchor or an alias: the indicator and a name. -/
def readAnchor (c : Cursor) : Except Failure (Token × Cursor) :=
  let began := c.mark
  let isAlias := c.next == '*'
  let activity := if isAlias then Activity.alias else .anchor
  let c := c.advance
  let name := c.run isNameChar
  let c := c.advanceBy name.length
  if name.isEmpty then tokenFault activity began (.expectedName c.next) c.mark
  else if !(isGap c.next || "?:,]\x7d%@`".toList.contains c.next) then
    tokenFault activity began (.expectedName c.next) c.mark
  else
    let name := String.ofList name
    .ok (⟨if isAlias then .alias name else .anchor name, began, c.mark⟩, c)

/-- The bytes of a run of escapes such as `%C3%A9`. -/
def readEscapedBytes (activity : Activity) (began : Mark) :
    Nat → Cursor → Except Failure (List UInt8 × Cursor)
  | 0, c => .ok ([], c)
  | steps + 1, c =>
    if c.next != '%' then .ok ([], c)
    else
      let c := c.advance
      if !isHexDigit c.next then tokenFault activity began (.expectedAddressEscape c.next) c.mark
      else if !isHexDigit (c.peek 1) then
        tokenFault activity began (.expectedAddressEscape (c.peek 1)) c.mark
      else do
        let byte := UInt8.ofNat (hexNumber (c.rest.take 2))
        let (bytes, c) ← readEscapedBytes activity began steps (c.advanceBy 2)
        return (byte :: bytes, c)

/-- The characters of a tag, with runs of escapes read as UTF-8. -/
def readAddressFrom (activity : Activity) (began : Mark) :
    Nat → Cursor → Except Failure (List Char × Cursor)
  | 0, c => .ok ([], c)
  | steps + 1, c =>
    let piece := c.run fun ch => isAddressChar ch && ch != '%'
    let c := c.advanceBy piece.length
    if c.next != '%' then .ok (piece, c)
    else do
      let place := c.mark
      let (bytes, c) ← readEscapedBytes activity began c.rest.length c
      match Text.decode bytes with
      | .error fault => tokenFault activity began (.brokenAddress fault) place
      | .ok chars =>
        let (more, c) ← readAddressFrom activity began steps c
        return (piece ++ chars ++ more, c)

/-- A tag or the expansion of a handle; there has to be something. -/
def readAddress (activity naming : Activity) (began : Mark) (c : Cursor) :
    Except Failure (String × Cursor) := do
  let (chars, stop) ← readAddressFrom activity began (c.rest.length + 1) c
  if stop.mark = c.mark then tokenFault naming began (.expectedAddress c.next) c.mark
  else return (String.ofList chars, stop)

/-- A handle such as `!`, `!!` or `!name!`. -/
def readHandle (activity : Activity) (began : Mark) (c : Cursor) : Except Failure (String × Cursor) :=
  if c.next != '!' then tokenFault activity began (.expectedBang c.next) c.mark
  else if c.peek 1 == ' ' then .ok ("!", c.advance)
  else
    let name := c.advance.run isNameChar
    let stop := c.advanceBy (name.length + 1)
    if stop.next != '!' then tokenFault activity began (.expectedBang stop.next) stop.mark
    else .ok (String.ofList ('!' :: name ++ ['!']), stop.advance)

/-- A tag without its check of what follows: verbatim, the lone mark, or a handle with a suffix. -/
def readTagBody (began : Mark) (c : Cursor) : Except Failure (Word × Cursor) :=
  let first := c.peek 1
  if first == '<' then do
    let (suffix, c) ← readAddress .tag .tagName began (c.advanceBy 2)
    if c.next != '>' then tokenFault .tagName began (.expectedAngle c.next) c.mark
    else return (.tag none suffix, c.advance)
  else if isGap first then .ok (.tag none "!", c.advance)
  else do
    let named := (c.advance.run (!isSpaceOrEnd ·)).contains '!'
    let (handle, c) ← if named then readHandle .tag began c else .ok ("!", c.advance)
    let (suffix, c) ← readAddress .tag .tagName began c
    return (.tag (some handle) suffix, c)

/-- A tag. -/
def readTag (c : Cursor) : Except Failure (Token × Cursor) := do
  let began := c.mark
  let (word, c) ← readTagBody began c
  if !isSpaceOrEnd c.next then tokenFault .tag began (.expectedSpace c.next) c.mark
  else return (⟨word, began, c.mark⟩, c)

/-- A number in a directive. -/
def readVersionNumber (began : Mark) (c : Cursor) : Except Failure (Nat × Cursor) :=
  let digits := c.run Char.isDigit
  if digits.isEmpty then tokenFault .directive began (.expectedDigit c.next) c.mark
  else if Text.longestDecimal < digits.length then .error (.scalar (.longInteger digits.length))
  else .ok (Text.ofBaseDigits 10 (digits.filterMap Text.baseDigit?), c.advanceBy digits.length)

/-- The two numbers of a version. -/
def readVersion (began : Mark) (c : Cursor) : Except Failure (Directive × Cursor) := do
  let (major, c) ← readVersionNumber began (c.skip (· == ' '))
  if c.next != '.' then tokenFault .directive began (.expectedDigitOrDot c.next) c.mark
  else
    let (minor, c) ← readVersionNumber began c.advance
    if !isSpaceOrEnd c.next then tokenFault .directive began (.expectedDigitOrSpace c.next) c.mark
    else return (.version major minor, c)

/-- A handle and what it stands for. -/
def readHandleDirective (began : Mark) (c : Cursor) : Except Failure (Directive × Cursor) := do
  let (handle, c) ← readHandle .directive began (c.skip (· == ' '))
  if c.next != ' ' then tokenFault .directive began (.expectedSpace c.next) c.mark
  else
    let (expansion, c) ← readAddress .directive .directiveName began (c.skip (· == ' '))
    if !isSpaceOrEnd c.next then tokenFault .directive began (.expectedSpace c.next) c.mark
    else return (.handle handle expansion, c)

/-- A directive with the line it takes. Directives that are not known say nothing. -/
def readDirective (c : Cursor) : Except Failure (Token × Cursor) := do
  let began := c.mark
  let c := c.advance
  let name := c.run isNameChar
  let c := c.advanceBy name.length
  if name.isEmpty || !isSpaceOrEnd c.next then
    tokenFault .directive began (.expectedName c.next) c.mark
  else
    let (directive, c) ←
      if name == "YAML".toList then readVersion began c
      else if name == "TAG".toList then readHandleDirective began c
      else Except.ok (.other, c.skip (!isLineEnd ·))
    let stop := c.mark
    let c ← skipLineRest .directive began c
    return (⟨.directive directive, began, stop⟩, c)

end AccessPolicy.Yaml
