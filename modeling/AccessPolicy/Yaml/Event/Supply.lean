import AccessPolicy.Yaml.Mark
import AccessPolicy.Yaml.Token.Supply

namespace AccessPolicy.Yaml

/-- What happens at a place. Tags are given in full; a node without one, or with the lone mark, has none. A
scalar may get its tag by its content: a plain one, or one with the lone mark. -/
inductive Happening where
  | streamStart
  | streamEnd
  | documentStart
  | documentEnd
  | alias (name : String)
  | scalar (anchor tag : Option String) (byContent : Bool) (text : String)
  | sequenceStart (anchor tag : Option String)
  | sequenceEnd
  | mappingStart (anchor tag : Option String)
  | mappingEnd
deriving DecidableEq, Repr

/-- An event and where it starts. -/
structure Event where
  what : Happening
  place : Mark
deriving DecidableEq, Repr

/-- What the grammar expects next. -/
inductive Expected where
  | streamStart
  | firstDocument
  | document
  | documentContent
  | documentEnd
  | blockNode
  | blockSequenceStart
  | blockSequenceEntry
  | plainSequenceEntry
  | blockMappingStart
  | blockMappingKey
  | blockMappingValue
  | flowSequenceStart
  | flowSequenceEntry
  | flowPairKey
  | flowPairValue
  | flowPairEnd
  | flowMappingStart
  | flowMappingKey
  | flowMappingValue
  | flowMappingNoValue
deriving DecidableEq, Repr

/-- The grammar at some point: the tokens to come, what is expected of them (the nearest first), where the open
collections started, and what the tag handles of the document stand for. -/
structure Grammar where
  tokens : List Token
  expected : List Expected
  opened : List Mark
  handles : List (String × String)

/-- Why no event follows: the tokens have run out, or something is wrong. -/
inductive Halt where
  | noToken
  | fault (failure : Failure)

namespace Grammar

/-- The handles that every document has. -/
def commonHandles : List (String × String) :=
  [("!", "!"), ("!!", "tag:yaml.org,2002:")]

/-- At the start of a text. -/
def start (tokens : List Token) : Grammar :=
  { tokens, expected := [.streamStart], opened := [], handles := commonHandles }

/-- The next token. -/
def peek (g : Grammar) : Except Halt Token :=
  match g.tokens with
  | [] => .error .noToken
  | token :: _ => .ok token

/-- Past the next token. -/
def drop (g : Grammar) : Grammar :=
  { g with tokens := g.tokens.drop 1 }

/-- Expects something before all else. -/
def expect (g : Grammar) (next : Expected) : Grammar :=
  { g with expected := next :: g.expected }

/-- Remembers where a collection starts, and passes the token that starts it. -/
def openAt (g : Grammar) (place : Mark) : Grammar :=
  { g.drop with opened := place :: g.opened }

/-- Passes the token that ends a collection. -/
def close (g : Grammar) : Grammar :=
  { g.drop with opened := g.opened.drop 1 }

/-- A fault at a token. -/
def refuse {α : Type} (during : Option (Activity × Option Mark)) (problem : Problem) (place : Mark) :
    Except Halt α :=
  .error (.fault (.form ⟨.event, during, problem, place⟩))

/-- A collection that is not ended as it should be. -/
def refuseEnd {α : Type} (g : Grammar) (activity : Activity) (problem : String → Problem) (token : Token) :
    Except Halt α :=
  refuse (some (activity, g.opened.head?)) (problem token.word.name) token.start

/-- The scalar that stands where nothing is given. -/
def nothingAt (place : Mark) : Event :=
  ⟨.scalar none none true "", place⟩

/-- The anchor and the tag of a node, where the first of them starts, where the tag starts, and where the last
of them ends. -/
structure Properties where
  anchor : Option String := none
  tag : Option (Option String × String) := none
  start : Option Mark := none
  tagStart : Option Mark := none

/-- Reads the properties of a node, in either order. -/
def readProperties (g : Grammar) : Except Halt (Properties × Grammar) := do
  let first ← g.peek
  match first.word with
  | .anchor name =>
    let second ← g.drop.peek
    match second.word with
    | .tag handle suffix =>
      return (⟨some name, some (handle, suffix), some first.start, some second.start⟩, g.drop.drop)
    | _ => return ({ anchor := some name, start := some first.start }, g.drop)
  | .tag handle suffix =>
    let properties : Properties :=
      { tag := some (handle, suffix), start := some first.start, tagStart := some first.start }
    let second ← g.drop.peek
    match second.word with
    | .anchor name => return ({ properties with anchor := some name }, g.drop.drop)
    | _ => return (properties, g.drop)
  | _ => return ({}, g)

/-- The full tag. -/
def resolveTag (g : Grammar) (p : Properties) (place : Mark) : Except Halt (Option String) :=
  match p.tag with
  | none => .ok none
  | some (none, suffix) => .ok (some suffix)
  | some (some handle, suffix) =>
    match g.handles.lookup handle with
    | some expansion => .ok (some (expansion ++ suffix))
    | none => refuse (some (.node, p.start)) (.undefinedHandle handle) (p.tagStart.getD place)

/-- A node whose content does not follow: an empty scalar if it has properties. -/
def readNoContent (block : Bool) (p : Properties) (given : Option String) (place : Mark) (token : Token)
    (g : Grammar) : Except Halt (Event × Grammar) :=
  if p.anchor.isSome || given.isSome then
    let tag := given.filter (· != "!")
    .ok (⟨.scalar p.anchor tag tag.isNone "", place⟩, g)
  else
    refuse (some (if block then .blockNode else .flowNode, some place)) (.expectedContent token.word.name)
      token.start

/-- The content of a node whose properties have been read. Where blocks may stand, a sequence may also stand
without indentation of its own if the place allows it. -/
def readContent (block indentless : Bool) (p : Properties) (given : Option String) (place : Mark)
    (g : Grammar) : Except Halt (Event × Grammar) := do
  let token ← g.peek
  let tag := given.filter (· != "!")
  let sequence := (⟨.sequenceStart p.anchor tag, place⟩ : Event)
  let mapping := (⟨.mappingStart p.anchor tag, place⟩ : Event)
  match token.word with
  | .scalar plain text =>
    let byContent := (plain && given.isNone) || given == some "!"
    return (⟨.scalar p.anchor tag byContent text, place⟩, g.drop)
  | .flowSequenceStart => return (sequence, g.expect .flowSequenceStart)
  | .flowMappingStart => return (mapping, g.expect .flowMappingStart)
  | .blockEntry =>
    if indentless then return (sequence, g.expect .plainSequenceEntry)
    else readNoContent block p given place token g
  | .blockSequenceStart =>
    if block then return (sequence, g.expect .blockSequenceStart)
    else readNoContent block p given place token g
  | .blockMappingStart =>
    if block then return (mapping, g.expect .blockMappingStart)
    else readNoContent block p given place token g
  | _ => readNoContent block p given place token g

/-- A node: an alias, or properties and content. -/
def readNode (block indentless : Bool) (g : Grammar) : Except Halt (Event × Grammar) := do
  let first ← g.peek
  match first.word with
  | .alias name => return (⟨.alias name, first.start⟩, g.drop)
  | _ =>
    let (p, after) ← g.readProperties
    let given ← after.resolveTag p first.start
    after.readContent block indentless p given (p.start.getD first.start)

/-- Reads the node after an indicator, or finds nothing there when one of some tokens follows at once. -/
def nodeUnless (stops : List Word) (block indentless : Bool) (after : Expected) (indicator : Token)
    (g : Grammar) : Except Halt (Event × Grammar) := do
  let g := g.drop
  let token ← g.peek
  if stops.contains token.word then return (nothingAt indicator.stop, g.expect after)
  else (g.expect after).readNode block indentless

/-- Reads a value after its colon, or finds nothing there when there is no colon. -/
def valueUnless (stops : List Word) (block : Bool) (after : Expected) (g : Grammar) :
    Except Halt (Event × Grammar) := do
  let token ← g.peek
  if token.word == .value then g.nodeUnless stops block block after token
  else return (nothingAt token.start, g.expect after)

/-- An entry or the end of a sequence in a block. -/
def blockSequenceEntry (g : Grammar) : Except Halt (Event × Grammar) := do
  let token ← g.peek
  if token.word == .blockEntry then
    g.nodeUnless [.blockEntry, .blockEnd] true false .blockSequenceEntry token
  else if token.word == .blockEnd then return (⟨.sequenceEnd, token.start⟩, g.close)
  else g.refuseEnd .blockSequence .expectedBlockEnd token

/-- An entry or the end of a sequence without indentation of its own, which any other token ends. -/
def plainSequenceEntry (g : Grammar) : Except Halt (Event × Grammar) := do
  let token ← g.peek
  if token.word == .blockEntry then
    g.nodeUnless [.blockEntry, .key, .value, .blockEnd] true false .plainSequenceEntry token
  else return (⟨.sequenceEnd, token.start⟩, g)

/-- A key or the end of a mapping in a block. -/
def blockMappingKey (g : Grammar) : Except Halt (Event × Grammar) := do
  let token ← g.peek
  if token.word == .key then
    g.nodeUnless [.key, .value, .blockEnd] true true .blockMappingValue token
  else if token.word == .blockEnd then return (⟨.mappingEnd, token.start⟩, g.close)
  else g.refuseEnd .blockMapping .expectedBlockEnd token

/-- An entry or the end of a sequence in brackets; a comma has been passed. A key there starts a mapping of one
entry. -/
def flowSequenceItem (g : Grammar) : Except Halt (Event × Grammar) := do
  let token ← g.peek
  if token.word == .flowSequenceEnd then return (⟨.sequenceEnd, token.start⟩, g.close)
  else if token.word == .key then
    return (⟨.mappingStart none none, token.start⟩, g.expect .flowPairKey)
  else (g.expect .flowSequenceEntry).readNode false false

/-- What follows an entry of a sequence in brackets. -/
def flowSequenceEntry (g : Grammar) : Except Halt (Event × Grammar) := do
  let token ← g.peek
  if token.word == .flowSequenceEnd then return (⟨.sequenceEnd, token.start⟩, g.close)
  else if token.word == .flowEntry then g.drop.flowSequenceItem
  else g.refuseEnd .flowSequence .expectedSequenceEnd token

/-- A key or the end of a mapping in brackets; a comma has been passed. A node without a key mark is a key
without a value. -/
def flowMappingItem (g : Grammar) : Except Halt (Event × Grammar) := do
  let token ← g.peek
  if token.word == .flowMappingEnd then return (⟨.mappingEnd, token.start⟩, g.close)
  else if token.word == .key then
    g.nodeUnless [.value, .flowEntry, .flowMappingEnd] false false .flowMappingValue token
  else (g.expect .flowMappingNoValue).readNode false false

/-- What follows an entry of a mapping in brackets. -/
def flowMappingKey (g : Grammar) : Except Halt (Event × Grammar) := do
  let token ← g.peek
  if token.word == .flowMappingEnd then return (⟨.mappingEnd, token.start⟩, g.close)
  else if token.word == .flowEntry then g.drop.flowMappingItem
  else g.refuseEnd .flowMapping .expectedMappingEnd token

/-- Reads the directives of a document, with what its handles stand for so far. -/
def readDirectives (versioned : Bool) (handles : List (String × String)) :
    List Token → Except Halt (List (String × String) × List Token)
  | [] => .error .noToken
  | token :: rest =>
    match token.word with
    | .directive (.version major _) =>
      if versioned then refuse none .duplicateVersion token.start
      else if major != 1 then refuse none .incompatibleVersion token.start
      else readDirectives true handles rest
    | .directive (.handle handle expansion) =>
      if (handles.lookup handle).isSome then refuse none (.duplicateHandle handle) token.start
      else readDirectives versioned (handles ++ [(handle, expansion)]) rest
    | .directive .other => readDirectives versioned handles rest
    | _ => .ok (handles, token :: rest)

/-- Whether a token is the mark that ends a document. -/
def endsDocument (token : Token) : Bool :=
  token.word == .documentEnd

/-- A document with its directives and its start, or the end of the text. -/
def readDocument (g : Grammar) : Except Halt (Event × Grammar) := do
  let g := { g with tokens := g.tokens.dropWhile endsDocument }
  let first ← g.peek
  if first.word == .streamEnd then return (⟨.streamEnd, first.start⟩, g.drop)
  else
    let (handles, tokens) ← readDirectives false [] g.tokens
    let g := { g with tokens, handles := handles ++ commonHandles }
    let token ← g.peek
    if token.word == .documentStart then
      return (⟨.documentStart, first.start⟩, (g.drop.expect .documentEnd).expect .documentContent)
    else refuse none (.expectedDocument token.word.name) token.start

/-- Whether a token starts or ends a document, or ends the text. -/
def bordersDocument (token : Token) : Bool :=
  match token.word with
  | .directive _ | .documentStart | .documentEnd | .streamEnd => true
  | _ => false

/-- The first document, which needs no mark to start it. -/
def firstDocument (g : Grammar) : Except Halt (Event × Grammar) := do
  let token ← g.peek
  if bordersDocument token && !endsDocument token then g.readDocument
  else return (⟨.documentStart, token.start⟩,
    ({ g with handles := commonHandles }.expect .documentEnd).expect .blockNode)

/-- The content of a document with a mark; there may be none. -/
def documentContent (g : Grammar) : Except Halt (Event × Grammar) := do
  let token ← g.peek
  if bordersDocument token then return (nothingAt token.start, g)
  else g.readNode true false

/-- The end of a document, with its mark if it has one. -/
def documentEnd (g : Grammar) : Except Halt (Event × Grammar) := do
  let token ← g.peek
  let g := if endsDocument token then g.drop else g
  return (⟨.documentEnd, token.start⟩, g.expect .document)

/-- The next event, by what is expected. -/
def step (g : Grammar) : Except Halt (Event × Grammar) :=
  match g.expected with
  | [] => .error .noToken
  | next :: later => do
    let g := { g with expected := later }
    let token ← g.peek
    match next with
    | .streamStart => return (⟨.streamStart, token.start⟩, g.drop.expect .firstDocument)
    | .firstDocument => g.firstDocument
    | .document => g.readDocument
    | .documentContent => g.documentContent
    | .documentEnd => g.documentEnd
    | .blockNode => g.readNode true false
    | .blockSequenceStart => (g.openAt token.start).blockSequenceEntry
    | .blockSequenceEntry => g.blockSequenceEntry
    | .plainSequenceEntry => g.plainSequenceEntry
    | .blockMappingStart => (g.openAt token.start).blockMappingKey
    | .blockMappingKey => g.blockMappingKey
    | .blockMappingValue => g.valueUnless [.key, .value, .blockEnd] true .blockMappingKey
    | .flowSequenceStart => (g.openAt token.start).flowSequenceItem
    | .flowSequenceEntry => g.flowSequenceEntry
    | .flowPairKey =>
      g.nodeUnless [.value, .flowEntry, .flowSequenceEnd] false false .flowPairValue token
    | .flowPairValue => g.valueUnless [.flowEntry, .flowSequenceEnd] false .flowPairEnd
    | .flowPairEnd => return (⟨.mappingEnd, token.start⟩, g.expect .flowSequenceEntry)
    | .flowMappingStart => (g.openAt token.start).flowMappingItem
    | .flowMappingKey => g.flowMappingKey
    | .flowMappingValue => g.valueUnless [.flowEntry, .flowMappingEnd] false .flowMappingKey
    | .flowMappingNoValue => return (nothingAt token.start, g.expect .flowMappingKey)

/-- Events until nothing more is expected or no event follows. -/
def run (later : Option Failure) : Nat → Grammar → Supply Event
  | 0, _ => { items := [], failure := later }
  | steps + 1, g =>
    match g.step with
    | .error .noToken => { items := [], failure := later }
    | .error (.fault failure) => { items := [], failure := some failure }
    | .ok (event, g) =>
      let rest := run later steps g
      { rest with items := event :: rest.items }

end Grammar

/-- The events of some tokens. A failure among the tokens follows when they run out. At most four events in a
row take no token, so there are at most five for each token. -/
def events (tokens : Supply Token) : Supply Event :=
  Grammar.run tokens.failure (5 * tokens.items.length + 5) (Grammar.start tokens.items)

end AccessPolicy.Yaml
