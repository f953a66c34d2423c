import AccessPolicy.Yaml.Data

namespace AccessPolicy.Yaml

/-- The characters that may occur in a text. -/
def isAllowed (c : Char) : Bool :=
  c == '\t' || c == '\n' || c == '\r' || c == '\x85'
    || (0x20 ≤ c.toNat && c.toNat ≤ 0x7e)
    || (0xa0 ≤ c.toNat && c.toNat ≤ 0xfffd)
    || 0x10000 ≤ c.toNat

/-- The first character that may not occur, with its position. -/
def firstForbidden? (text : List Char) : Option (Char × Nat) :=
  match text.dropWhile isAllowed with
  | [] => none
  | c :: _ => some (c, (text.takeWhile isAllowed).length)

/-- The data of the document in a text. A text without a document stands for nothing. -/
def load (text : List Char) : Except Failure Value := do
  match firstForbidden? text with
  | some (c, position) => throw (.character c position)
  | none =>
    match ← Graph.ofEvents? (events (tokens text)) with
    | (graph, some root) => graph.data root
    | (_, none) => return .null

/-- Nothing made yet. -/
def Composer.fresh : Composer := ⟨.empty, [], [], none⟩

/-- The data of the document whose events have been taken. -/
def Composer.value (s : Composer) : Except Failure Value :=
  match s.root with
  | some root => s.graph.data root
  | none => .ok .null

/-- The data of the documents that events make up; each is made when its document ends. -/
def Composer.values (failure : Option Failure) (s : Composer) : List Event → Except Failure (List Value)
  | [] => match failure with
    | some failure => .error failure
    | none => .ok []
  | event :: rest => do
    let s ← s.step event
    match event.what with
    | .documentEnd => return (← s.value) :: (← fresh.values failure rest)
    | _ => s.values failure rest

/-- The data of the documents in a text, or the first failure that is met in reading them in turn. -/
def loadAll (text : List Char) : Except Failure (List Value) :=
  match firstForbidden? text with
  | some (c, position) => .error (.character c position)
  | none =>
    let events := events (tokens text)
    Composer.fresh.values events.failure events.items

end AccessPolicy.Yaml
