import AccessPolicy.Yaml.Node

namespace AccessPolicy.Yaml.Graph

/-- A fault in the data. -/
def fault (during : Option (Activity × Option Mark)) (problem : Problem) (place : Mark) : Failure :=
  .form ⟨.value, during, problem, place⟩

/-- What is said of a node whose data would be a part of themselves. -/
def recursiveFault (g : Graph) (i : Nat) : Failure :=
  fault none .recursiveNode (g.node i).start

/-- The text of a node where a scalar is called for; a mapping has that of its default value, which may be a mapping
again, so many times at most. -/
def textWithin (g : Graph) : Nat → Nat → Except Failure String
  | 0, i => .error (g.recursiveFault i)
  | steps + 1, i =>
    match (g.node i).content with
    | .scalar text => .ok text
    | content =>
      match (g.entries i).find? fun entry => (g.node entry.1).tag = Tag.value with
      | some (_, value) => g.textWithin steps value
      | none => .error (fault none (.expectedShape .scalar content.shape) (g.node i).start)

/-- The text of a node. Of different nodes there are no more than there are nodes. -/
def text (g : Graph) (i : Nat) : Except Failure String :=
  g.textWithin g.nodes.size i

/-- Whether an entry of a mapping is a merge key, with what it names. -/
def isMerge (g : Graph) (entry : Nat × Nat) : Bool :=
  (g.node entry.1).tag = Tag.merge

/-- The number of merge keys in all mappings. -/
def merges (g : Graph) : Nat :=
  (List.range g.nodes.size).foldl (fun n i => n + (g.entries i).countP g.isMerge) 0

/-- What the first merge key of a mapping names, and the nodes without that key. -/
def takeMerge? (g : Graph) (i : Nat) : Option (Nat × Graph) :=
  match (g.entries i).span (!g.isMerge ·) with
  | (before, (_, source) :: after) => some (source, g.setContent i (.mapping (before ++ after)))
  | (_, []) => none

/-- Makes keys of a mapping that stand for the default value plain texts. -/
def settleDefaults (g : Graph) (i : Nat) : Graph :=
  (g.entries i).foldl (fun g entry =>
    if (g.node entry.1).tag = Tag.value then g.modify entry.1 ({ · with tag := Tag.text }) else g) g

/-- The entries that a merge key adds: those of a mapping, or of the mappings in a sequence, the last one first.
They are resolved before they are taken. -/
def mergeSource (resolve : Graph → Nat → Except Failure Graph) (start : Mark) (g : Graph) (source : Nat) :
    Except Failure (Graph × List (Nat × Nat)) :=
  match (g.node source).content with
  | .mapping _ => do
    let g ← resolve g source
    return (g, g.entries source)
  | .sequence items =>
    items.foldlM (fun (g, added) item => do
      let node := g.node item
      if node.shape ≠ .mapping then
        throw (fault (some (.mappingValue, some start)) (.unmergeableItem node.shape) node.start)
      let g ← resolve g item
      return (g, g.entries item ++ added)) (g, [])
  | .scalar _ =>
    .error (fault (some (.mappingValue, some start)) (.unmergeable .scalar) (g.node source).start)

/-- Resolves the merge keys that are left in a mapping, behind entries that others have added. A key is taken out for
good before what it names is resolved, so that a mapping may name itself. -/
def resolveWithin : Nat → Graph → Nat → List (Nat × Nat) → Except Failure Graph
  | 0, g, i, _ => .error (g.recursiveFault i)
  | steps + 1, g, i, added =>
    match g.takeMerge? i with
    | none => .ok ((g.settleDefaults i).setContent i (.mapping (added ++ g.entries i)))
    | some (source, g) => do
      let (g, more) ← g.mergeSource (fun g j => resolveWithin steps g j []) (g.node i).start source
      resolveWithin steps g i (added ++ more)

/-- Resolves the merge keys of a mapping; the entries they add come first. Resolving changes the nodes themselves, so
whoever looks at a node later finds it resolved. A key that stands for the default value becomes a plain text. -/
def resolve (g : Graph) (i : Nat) : Except Failure Graph :=
  g.resolveWithin (g.merges + 1) i []

end AccessPolicy.Yaml.Graph
