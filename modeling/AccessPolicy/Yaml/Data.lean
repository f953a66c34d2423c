import AccessPolicy.Yaml.Atom
import AccessPolicy.Yaml.Merge

namespace AccessPolicy.Yaml

/-- What a node stands for. The parts of a collection are given by the numbers of their nodes, which may be those of
collections around it; keys and members are whole. -/
inductive Datum where
  | whole (value : Value)
  | list (items : List Nat)
  | pairs (items : List (Nat × Nat))
  | map (entries : List (Value × Nat))
  | set (members : List Value)

/-- The numbers of its parts. -/
def Datum.parts : Datum → List Nat
  | whole _ | set _ => []
  | list items => items
  | pairs items => items.flatMap fun (key, value) => [key, value]
  | map entries => entries.map Prod.snd

/-- The data of a node from those of its parts. -/
def Datum.value (part : Nat → Value) : Datum → Value
  | whole value => value
  | list items => .list (items.map part)
  | pairs items => .list (items.map fun (key, value) => .tuple [part key, part value])
  | map entries => .map (entries.map fun (key, value) => (key, part value))
  | set members => .set members

/-- The data of a node, if those of its parts are known. -/
def Datum.value? (known : Array (Option Value)) (datum : Datum) : Option Value :=
  if datum.parts.all fun i => (known.getD i none).isSome then
    some (datum.value fun i => (known.getD i none).getD .null)
  else none

/-- Data in the making: what the nodes stand for as far as they are made, and the collections that wait to be
filled, the last one first. Every node is made once. A scalar is whole at once; a collection is there as soon as it is met
and is filled later, all that wait at one time before those met meanwhile. -/
structure Making where
  graph : Graph
  data : Array (Option Datum)
  waiting : List Nat

namespace Making

/-- Keeps what a node stands for. -/
def keep (s : Making) (i : Nat) (datum : Datum) : Making :=
  { s with data := s.data.setIfInBounds i (some datum) }

/-- What a collection with a common tag is before it is filled. -/
def unfilled? (tag : String) : Option Datum :=
  if tag = Tag.mapping then some (.map [])
  else if tag = Tag.sequence then some (.list [])
  else if tag = Tag.set then some (.set [])
  else if tag = Tag.orderedMap ∨ tag = Tag.pairs then some (.pairs [])
  else none

/-- Tells what is no number by the node that it is made for. -/
def ofNode (i : Nat) : Value → Value
  | .float (.nan (some _)) => .float (.nan (some i))
  | v => v

/-- The data of a scalar. A timestamp cannot be given as a default value. -/
def atom (g : Graph) (i : Nat) : Except Failure Value := do
  let node := g.node i
  if (Atom.ofScalar? node.tag [] node.start).isNone then
    throw (Graph.fault none (.unknownTag node.tag) node.start)
  let text ← g.text i
  if node.tag = Tag.timestamp ∧ node.shape ≠ .scalar then throw (.scalar .notText)
  return ofNode i (← (Atom.ofScalar? node.tag text.toList node.start).getD (.ok .null))

/-- Makes a node unless it is made. -/
def make (s : Making) (i : Nat) : Except Failure (Datum × Making) :=
  match (s.data[i]?).join with
  | some datum => .ok (datum, s)
  | none =>
    match unfilled? (s.graph.node i).tag with
    | some datum => .ok (datum, { s.keep i datum with waiting := i :: s.waiting })
    | none => do
      let datum := Datum.whole (← atom s.graph i)
      return (datum, s.keep i datum)

/-- Makes the items of a sequence. -/
def fillList (s : Making) (i : Nat) : Except Failure (Datum × Making) := do
  let node := s.graph.node i
  match node.content with
  | .sequence items => return (.list items, ← items.foldlM (fun s item => do return (← s.make item).2) s)
  | content => throw (Graph.fault none (.expectedShape .sequence content.shape) node.start)

/-- Makes the entries of a mapping, each key before its value. A key that comes again keeps its place. -/
def fillEntries (s : Making) (i : Nat) : Except Failure (List (Value × Nat) × Making) := do
  let node := s.graph.node i
  if node.shape ≠ .mapping then throw (Graph.fault none (.expectedShape .mapping node.shape) node.start)
  let s := { s with graph := ← s.graph.resolve i }
  (s.graph.entries i).foldlM (fun (filled, s) (key, value) => do
    let (datum, s) ← s.make key
    match datum with
    | .whole name => return (Value.putEntry name value filled, (← s.make value).2)
    | _ => throw (Graph.fault (some (.mappingValue, some node.start)) .unhashableKey (s.graph.node key).start))
    ([], s)

/-- Makes a list of pairs from a sequence of mappings of one entry each. -/
def fillPairs (activity : Activity) (s : Making) (i : Nat) : Except Failure (Datum × Making) := do
  let node := s.graph.node i
  let fault (problem : Problem) (place : Mark) := Graph.fault (some (activity, some node.start)) problem place
  match node.content with
  | .sequence items =>
    let (pairs, s) ← items.foldlM (fun (pairs, s) item => do
      let part := s.graph.node item
      match part.content with
      | .mapping [(key, value)] =>
        let (_, s) ← s.make key
        let (_, s) ← s.make value
        return (pairs ++ [(key, value)], s)
      | .mapping entries => throw (fault (.expectedSingleItem entries.length) part.start)
      | content => throw (fault (.expectedSingleMapping content.shape) part.start)) ([], s)
    return (.pairs pairs, s)
  | content => throw (fault (.expectedSequence content.shape) node.start)

/-- Fills a collection according to its tag. -/
def fill (s : Making) (i : Nat) : Except Failure Making := do
  let tag := (s.graph.node i).tag
  let (datum, s) ←
    if tag = Tag.sequence then s.fillList i
    else if tag = Tag.orderedMap then s.fillPairs .orderedMap i
    else if tag = Tag.pairs then s.fillPairs .pairs i
    else do
      let (entries, s) ← s.fillEntries i
      pure (if tag = Tag.set then .set (entries.map Prod.fst) else .map entries, s)
  return s.keep i datum

/-- Fills what waits, and what comes to wait by that. Each node waits once, so this is needed no more often than there are
nodes. -/
def fillAll : Nat → Making → Except Failure Making
  | 0, s => .ok s
  | rounds + 1, s => do
    fillAll rounds (← s.waiting.reverse.foldlM fill { s with waiting := [] })

/-- Finds the data of the nodes whose parts are known, from the last node to the first. A collection starts before its
parts, so all are found at once unless they are given by aliases. -/
def settle (s : Making) (known : Array (Option Value)) : Array (Option Value) :=
  (List.range s.data.size).foldr
    (fun i known => known.setIfInBounds i ((s.data.getD i none).bind (·.value? known))) known

/-- The data of a node, found in so many rounds at most. -/
def valueWithin? (s : Making) (i : Nat) : Nat → Array (Option Value) → Option Value
  | 0, known => known.getD i none
  | rounds + 1, known =>
    match known.getD i none with
    | some value => some value
    | none => valueWithin? s i rounds (s.settle known)

/-- The data of a node. Each round finds those of another node, unless all that are left hold a collection that is a part
of itself. -/
def value? (s : Making) (i : Nat) : Option Value :=
  s.valueWithin? i s.data.size (.replicate s.data.size none)

end Making

/-- The data that a node stands for, or the first fault that is met in making them. A collection that comes to hold itself is
no such data. -/
def Graph.data (g : Graph) (root : Nat) : Except Failure Value := do
  let (_, s) ← Making.make ⟨g, .replicate g.nodes.size none, []⟩ root
  let s ← s.fillAll g.nodes.size
  match s.value? root with
  | some value => return value
  | none => throw (g.recursiveFault root)

end AccessPolicy.Yaml
