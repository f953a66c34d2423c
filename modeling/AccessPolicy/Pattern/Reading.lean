import AccessPolicy.Text.Identifier
import AccessPolicy.Pattern.FlagGroup
import AccessPolicy.Pattern.Set
import AccessPolicy.Pattern.Width
import AccessPolicy.Pattern.Words

namespace AccessPolicy.Pattern

/-- The first number that no group can have. -/
def groupLimit : Nat := Nat.pow 2 30 - 1

/-- Parts in a row, those of plain groups taken in. -/
def flatten (parts : List Node) : List Node :=
  parts.flatMap fun
    | .seq inner => inner
    | part => [part]

/-- The part that an escape makes. -/
def escapeNode (flags : Flags) : Escaped → Node
  | .code n => charNode flags n
  | .property category negated => membersNode flags false [.property category negated]
  | .anchor place => .anchor place
  | .reference number => .reference flags.fold number

/-- Skips a remark up to the end of its line. -/
def skipLine : Nat → Reader Unit
  | 0 => return
  | fuel + 1 => do
    match ← take with
    | none => return
    | some token => if token.isAmong ['\n'] then return else skipLine fuel

/-- Skips a remark up to the closing bracket. -/
def skipComment (start : Nat) : Nat → Reader Unit
  | 0 => return
  | fuel + 1 => do
    if (← peek).isNone then fail .unterminatedComment ((← here) - start)
    else
      match ← take with
      | none => return
      | some token => if token.isAmong [')'] then return else skipComment start fuel

/-- A count of turns. -/
def readCount (digits : List Char) : Reader Nat := do
  if Text.longestDecimal < digits.length then throw (.longCount digits.length)
  else
    let n := numberOf 10 digits
    if countLimit ≤ n then throw .hugeCount else return n

/-- The bounds in curly brackets, the first of which has been taken; none if the brackets hold something else,
in which case they stand for themselves. -/
def takeBounds (start : Nat) : Reader (Option (Nat × Option Nat)) := do
  if let some token ← peek then
    if token.isAmong ['\x7d'] then return none
  let back := (← get).left
  let low ← takeAll Char.isDigit
  let high ← if ← accept ',' then takeAll Char.isDigit else pure low
  if !(← accept '\x7d') then
    resume back
    return none
  else
    let least ← if low.isEmpty then pure 0 else readCount low
    if high.isEmpty then return some (least, none)
    else
      let most ← readCount high
      if most < least then fail .repeatOrder ((← here) - start)
      else return some (least, some most)

/-- The bounds that a piece sets for the part before it. -/
def boundsOf (start : Nat) : Char → Reader (Option (Nat × Option Nat))
  | '?' => return some (0, some 1)
  | '*' => return some (0, none)
  | '+' => return some (1, none)
  | _ => takeBounds start

/-- The manner of a repetition, by what follows its bounds. -/
def takeManner : Reader Manner := do
  if ← accept '?' then return .lazy
  else if ← accept '+' then return .possessive
  else return .greedy

/-- Repeats the last part; the parts come in reverse order. -/
def repeatLast (c : Char) (parts : List Node) : Reader (List Node) := do
  let start ← here
  match ← boundsOf start c with
  | none => return charNode (← get).flags c.toNat :: parts
  | some (least, most) =>
    let refuse := fun (problem : Problem) => do fail problem ((← here) - start + 1)
    match parts with
    | [] | .anchor _ :: _ => refuse .nothingToRepeat
    | .repetition .. :: _ => refuse .multipleRepeat
    | part :: rest => return .repetition (← takeManner) least most part :: rest

/-- Checks a name that has just been taken with its terminator. -/
def checkName (name : List Char) : Reader Unit := do
  if !Text.isIdentifier name then fail (.badName (String.ofList name)) (name.length + 1)

/-- Opens a group, with a name if it has one. -/
def openGroup (name : Option (List Char)) : Reader Nat := do
  let number ← nextGroup
  modify fun s => { s with groups := s.groups ++ [none] }
  match name with
  | none => return number
  | some name =>
    let text := String.ofList name
    match (← get).names.lookup text with
    | some earlier => fail (.redefinedName text number earlier) (name.length + 1)
    | none =>
      modify fun s => { s with names := s.names ++ [(text, number)] }
      return number

/-- Completes a group. -/
def closeGroup (number : Nat) (body : Node) : Reader Unit := do
  modify fun s => { s with groups := s.groups.set (number - 1) (some (body.width s.groups)) }

/-- A reference to a group by name. -/
def namedReference : Reader Node := do
  let name ← takeName ')' "group name"
  checkName name
  let s ← get
  match s.names.lookup (String.ofList name) with
  | none => fail (.unknownName (String.ofList name)) (name.length + 1)
  | some number =>
    if !s.isClosed number then fail .openReference (name.length + 1)
    else
      checkBehind number
      return .reference s.flags.fold number

/-- Drops the underscores that separate digits; none if one stands elsewhere. -/
def joinDigits : List Char → Option (List Char)
  | [] => some []
  | ['_'] => none
  | '_' :: _ => none
  | c :: '_' :: d :: rest =>
    if Text.isDigit c && Text.isDigit d then (joinDigits (d :: rest)).map (c :: ·) else none
  | c :: rest => (joinDigits rest).map (c :: ·)

/-- The number of a group that a condition mentions. -/
def conditionNumber? (name : List Char) : Option Nat := do
  match Text.readInt 10 (← joinDigits name) with
  | .ok n => if n < 0 then none else some n.toNat
  | .error _ => none

/-- The group that a condition is about, by name or by number. A number may come before its group. -/
def takeCondition : Reader Nat := do
  let name ← takeName ')' "group name"
  let back := name.length + 1
  let number ← if Text.isIdentifier name then
      match (← get).names.lookup (String.ofList name) with
      | some number => pure number
      | none => fail (.unknownName (String.ofList name)) back
    else
      match conditionNumber? name with
      | none => fail (.badName (String.ofList name)) back
      | some 0 => fail .badNumber back
      | some number =>
        if groupLimit ≤ number then fail (.invalidReference number) back
        let position := (← here) - back
        modify fun s =>
          if (s.mentions.lookup number).isSome then s
          else { s with mentions := s.mentions ++ [(number, position)] }
        pure number
  checkBehind number
  return number

/-- The closing bracket of a group. -/
def takeClosing (start : Nat) : Reader Unit := do
  if !(← accept ')') then fail .unterminatedGroup ((← here) - start)

/-- What an opening bracket begins. -/
inductive Opening where
  | group (name : Option (List Char))
  | plain
  | scoped (on off : Flags)
  | atomic
  | look (behind positive : Bool)
  | condition (number : Nat)
  | reference (node : Node)
  | nothing
  | globalFlags

/-- Refuses what follows an opening bracket and a question mark. -/
def refuseExtension {α : Type} (before : String) (token : Token) : Reader α := do
  fail (.unknownExtension (before ++ String.ofList token.chars)) (token.chars.length + before.length)

/-- What an opening bracket with a question mark and a `P` begins. -/
def takeNamed : Reader Opening := do
  if ← accept '<' then
    let name ← takeName '>' "group name"
    checkName name
    return .group (some name)
  else if ← accept '=' then return .reference (← namedReference)
  else
    match ← take with
    | none => fail .unexpectedEnd 0
    | some token => refuseExtension "?P" token

/-- What an opening bracket with a question mark and a `<` begins. -/
def takeBehind : Reader Opening := do
  match ← take with
  | none => fail .unexpectedEnd 0
  | some token =>
    if token.isAmong ['='] then return .look true true
    else if token.isAmong ['!'] then return .look true false
    else refuseExtension "?<" token

/-- What an opening bracket at some place begins. -/
def takeOpening (start : Nat) : Reader Opening := do
  if !(← accept '?') then return .group none
  else
    match ← take with
    | none => fail .unexpectedEnd 0
    | some token =>
      match token with
      | .plain _ 'P' => takeNamed
      | .plain _ ':' => return .plain
      | .plain _ '#' =>
        skipComment start ((← get).left.length + 1)
        return .nothing
      | .plain _ '=' => return .look false true
      | .plain _ '!' => return .look false false
      | .plain _ '<' => takeBehind
      | .plain _ '(' => return .condition (← takeCondition)
      | .plain _ '>' => return .atomic
      | token =>
        if (flagOf? token).isSome || token.isAmong ['-'] then
          match ← takeSwitches token with
          | none => return .globalFlags
          | some (on, off) => return .scoped on off
        else refuseExtension "?" token

/-- Runs a step under other flags and then restores those in force. -/
def underFlags {α : Type} (flags : Flags) (step : Reader α) : Reader α := do
  let outer := (← get).flags
  modify fun s => { s with flags }
  let result ← step
  modify fun s => { s with flags := outer }
  return result

/-- Runs the step that reads what is looked for behind, from which later groups are out of reach. -/
def lookingBehind {α : Type} (step : Reader α) : Reader α := do
  let outer := (← get).behind
  if outer.isNone then modify fun s => { s with behind := some (s.groups.length + 1) }
  let result ← step
  if outer.isNone then modify fun s => { s with behind := none }
  return result

mutual
/-- Alternatives up to the end of the pattern or of the group. Only at the top may flags for the whole pattern
stand, and only at the start of the first alternative. -/
def alternatives : Nat → Bool → Reader (List Node)
  | 0, _ => return []
  | fuel + 1, top => do
    let first ← sequence fuel top []
    let rest ← moreAlternatives fuel
    return joinOptions (← get).flags (first :: rest)

/-- The alternatives behind the first one. -/
def moreAlternatives : Nat → Reader (List (List Node))
  | 0 => return []
  | fuel + 1 => do
    if ← accept '|' then
      let option ← sequence fuel false []
      return option :: (← moreAlternatives fuel)
    else return []

/-- Parts in a row; those read so far come in reverse order. -/
def sequence : Nat → Bool → List Node → Reader (List Node)
  | 0, _, parts => return flatten parts.reverse
  | fuel + 1, top, parts => do
    match ← peek with
    | none => return flatten parts.reverse
    | some token =>
      if token.isAmong ['|', ')'] then return flatten parts.reverse
      else
        let _ ← take
        let flags := (← get).flags
        match token with
        | .dangling position => throw (.at .danglingEscape position)
        | .escape _ c =>
          let escaped ← bareEscape (flags.contains .ascii) c
          sequence fuel top (escapeNode flags escaped :: parts)
        | .plain position c =>
          if flags.contains .verbose && Text.isAsciiBlank c then sequence fuel top parts
          else if flags.contains .verbose && c == '#' then
            skipLine ((← get).left.length + 1)
            sequence fuel top parts
          else if c == '[' then sequence fuel top ((← takeSet) :: parts)
          else if c == '*' || c == '+' || c == '?' || c == '\x7b' then
            sequence fuel top (← repeatLast c parts)
          else if c == '.' then sequence fuel top (.any (flags.contains .dotAll) :: parts)
          else if c == '^' then
            let place := if flags.contains .multiline then .lineStart else .textStart
            sequence fuel top (.anchor place :: parts)
          else if c == '$' then
            let place := if flags.contains .multiline then .lineEnd else .lastLineEnd
            sequence fuel top (.anchor place :: parts)
          else if c == '(' then
            match ← takeOpening position with
            | .nothing => sequence fuel top parts
            | .globalFlags =>
              if !top || !parts.isEmpty then fail .misplacedFlags ((← here) - position)
              else sequence fuel top parts
            | .reference node => sequence fuel top (node :: parts)
            | opening => sequence fuel top ((← bracketed fuel position opening) :: parts)
          else sequence fuel top (charNode flags c.toNat :: parts)

/-- The part in brackets that an opening begins. -/
def bracketed : Nat → Nat → Opening → Reader Node
  | 0, _, _ => return .seq []
  | fuel + 1, start, opening => do
    let flags := (← get).flags
    match opening with
    | .group name =>
      let number ← openGroup name
      let body ← Node.seq <$> underFlags flags (alternatives fuel false)
      takeClosing start
      closeGroup number body
      return .group (some number) body
    | .scoped on off =>
      let body ← Node.seq <$> underFlags (flags.adjust on off) (alternatives fuel false)
      takeClosing start
      return .group none body
    | .atomic =>
      let body ← Node.seq <$> alternatives fuel false
      takeClosing start
      return .atomic body
    | .look false positive =>
      let body ← Node.seq <$> alternatives fuel false
      takeClosing start
      return .look none positive body
    | .look true positive =>
      let body ← Node.seq <$> lookingBehind (alternatives fuel false)
      takeClosing start
      return .look (some (body.width (← get).groups)) positive body
    | .condition number =>
      let present ← Node.seq <$> sequence fuel false []
      let absent ← if ← accept '|' then
          let absent ← Node.seq <$> sequence fuel false []
          if let some token ← peek then
            if token.isAmong ['|'] then fail .thirdBranch 0
          pure absent
        else pure (.seq [])
      takeClosing start
      return .conditional number present absent
    | _ =>
      let body ← Node.seq <$> alternatives fuel false
      takeClosing start
      return body
end

/-- The operator that a repetition is, by the name it has in messages. -/
def Manner.operator : Manner → String
  | .greedy => "MAX_REPEAT"
  | .lazy => "MIN_REPEAT"
  | .possessive => "POSSESSIVE_REPEAT"

mutual
/-- What makes a pattern unusable although it is well formed: a look behind of no fixed width, or any repetition
in a template. -/
def Node.defect? (template : Bool) : Node → Option Problem
  | .seq parts | .choice parts => firstDefect? template parts
  | .group _ body | .atomic body => body.defect? template
  | .conditional _ present absent => (present.defect? template).or (absent.defect? template)
  | .repetition manner _ _ body =>
    if template then some (.untemplated manner.operator) else body.defect? template
  | .look behind _ body =>
    match behind with
    | none => body.defect? template
    | some w => if w.least ≠ w.most then some .variableLookBehind else body.defect? template
  | _ => none

/-- The first defect among several parts. -/
def firstDefect? (template : Bool) : List Node → Option Problem
  | [] => none
  | part :: parts => (part.defect? template).or (firstDefect? template parts)
end

/-- The whole of a pattern, with the checks that follow its reading. -/
def whole (size : Nat) : Reader Form := do
  resume (← get).left
  let body ← Node.seq <$> alternatives (4 * size + 4) true
  let s ← get
  if s.flags.contains .ascii && s.flags.contains .unicode then throw .twoKinds
  else if !s.left.isEmpty then fail .unbalanced 0
  else
    match s.mentions.find? fun m => s.groups.length < m.1 with
    | some (number, position) => throw (.at (.invalidReference number) position)
    | none =>
      match body.defect? (s.flags.contains .template) with
      | some problem => throw (.whole problem)
      | none => if body.isMistaken then throw .mistaken else return ⟨body, (body.width s.groups).least⟩

/-- The pattern that a text denotes. -/
def read (source : List Char) : Except Fault Form :=
  let pieces := tokens 0 source
  (whole pieces.length).run' ⟨pieces, source.length, [], [], none, [], []⟩

end AccessPolicy.Pattern
