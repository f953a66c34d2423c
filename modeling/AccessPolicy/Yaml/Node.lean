import AccessPolicy.Yaml.Event.Supply
import AccessPolicy.Yaml.Tag

namespace AccessPolicy.Yaml

/-- What a node holds, its parts by their numbers. -/
inductive Content where
  | scalar (text : String)
  | sequence (items : List Nat)
  | mapping (entries : List (Nat × Nat))
deriving DecidableEq, Repr, Inhabited

/-- The shape of a content. -/
def Content.shape : Content → Shape
  | scalar _ => .scalar
  | sequence _ => .sequence
  | mapping _ => .mapping

/-- A node with its tag and the place where it starts. -/
structure Node where
  tag : String
  start : Mark
  content : Content
deriving Inhabited

/-- The shape of a node. -/
def Node.shape (node : Node) : Shape :=
  node.content.shape

/-- Nodes by their numbers, in the order in which they start. An alias is the number of the node that it stands for, so
that a node may be a part of several others, or of itself. -/
structure Graph where
  nodes : Array Node

namespace Graph

/-- No nodes. -/
def empty : Graph :=
  ⟨#[]⟩

/-- The node of a number. -/
def node (g : Graph) (i : Nat) : Node :=
  g.nodes.getD i default

/-- The entries of a mapping. -/
def entries (g : Graph) (i : Nat) : List (Nat × Nat) :=
  match (g.node i).content with
  | .mapping entries => entries
  | _ => []

/-- Changes a node. -/
def modify (g : Graph) (i : Nat) (f : Node → Node) : Graph :=
  ⟨g.nodes.modify i f⟩

/-- Gives a node its content. -/
def setContent (g : Graph) (i : Nat) (content : Content) : Graph :=
  g.modify i ({ · with content })

/-- Gives a node the next number. -/
def add (g : Graph) (node : Node) : Graph × Nat :=
  (⟨g.nodes.push node⟩, g.nodes.size)

end Graph

/-- A collection that has not ended: its number, its parts so far, the last one first, and for a mapping the key that
waits for its value. -/
inductive Frame where
  | sequence (number : Nat) (items : List Nat)
  | mapping (number : Nat) (entries : List (Nat × Nat)) (key : Option Nat)

/-- Nodes in the making, with what anchors name. A collection has no parts until it ends. -/
structure Composer where
  graph : Graph
  frames : List Frame
  anchors : List (String × Mark × Nat)
  root : Option Nat

namespace Composer

/-- A fault among the nodes. -/
def refuse {α : Type} (during : Option (Activity × Option Mark)) (problem : Problem) (place : Mark) :
    Except Failure α :=
  .error (.form ⟨.node, during, problem, place⟩)

/-- Gives a node its place in the collection around it, or makes it the root. -/
def attach (s : Composer) (i : Nat) : Composer :=
  match s.frames with
  | [] => { s with root := some i }
  | .sequence number items :: outer => { s with frames := .sequence number (i :: items) :: outer }
  | .mapping number entries none :: outer => { s with frames := .mapping number entries (some i) :: outer }
  | .mapping number entries (some key) :: outer =>
    { s with frames := .mapping number ((key, i) :: entries) none :: outer }

/-- Refuses an anchor that the document already has. -/
def checkAnchor (s : Composer) (anchor : Option String) (place : Mark) : Except Failure Unit :=
  match anchor with
  | none => .ok ()
  | some name =>
    match s.anchors.lookup name with
    | some (first, _) => refuse (some (.firstAnchor name, some first)) .secondAnchor place
    | none => .ok ()

/-- Lets an anchor name a node. -/
def name (s : Composer) (anchor : Option String) (start : Mark) (i : Nat) : Composer :=
  match anchor with
  | none => s
  | some name => { s with anchors := (name, start, i) :: s.anchors }

/-- Adds a node, and lets its anchor name it. -/
def add (s : Composer) (anchor : Option String) (node : Node) : Composer × Nat :=
  let (graph, i) := s.graph.add node
  ({ s with graph }.name anchor node.start i, i)

/-- Takes a node without parts. -/
def take (s : Composer) (anchor : Option String) (node : Node) : Composer :=
  let (s, i) := s.add anchor node
  s.attach i

/-- Takes the start of a collection. Its anchor names it at once, so that it may be a part of itself. -/
def begin (s : Composer) (anchor : Option String) (node : Node) (frame : Nat → Frame) : Composer :=
  let (s, i) := s.add anchor node
  { s with frames := frame i :: s.frames }

/-- Takes the end of the innermost collection. -/
def finish (s : Composer) : Composer :=
  match s.frames with
  | [] => s
  | .sequence number items :: outer =>
    { s with graph := s.graph.setContent number (.sequence items.reverse), frames := outer }.attach number
  | .mapping number entries _ :: outer =>
    { s with graph := s.graph.setContent number (.mapping entries.reverse), frames := outer }.attach number

/-- What an alias stands for. -/
def findAlias (s : Composer) (name : String) (place : Mark) : Except Failure Nat :=
  match s.anchors.lookup name with
  | some (_, i) => .ok i
  | none => refuse none (.undefinedAlias name) place

/-- Takes one event. -/
def step (s : Composer) (event : Event) : Except Failure Composer :=
  match event.what with
  | .streamStart | .streamEnd => .ok s
  | .documentStart =>
    match s.root with
    | some root => refuse (some (.onlyDocument, some (s.graph.node root).start)) .anotherDocument event.place
    | none => .ok s
  | .documentEnd => .ok { s with anchors := [] }
  | .alias name => do return s.attach (← s.findAlias name event.place)
  | .scalar anchor tag byContent text => do
    s.checkAnchor anchor event.place
    let tag := tag.getD (if byContent then Tag.ofContent text.toList else Tag.text)
    return s.take anchor ⟨tag, event.place, .scalar text⟩
  | .sequenceStart anchor tag => do
    s.checkAnchor anchor event.place
    return s.begin anchor ⟨tag.getD Tag.sequence, event.place, .sequence []⟩ (.sequence · [])
  | .mappingStart anchor tag => do
    s.checkAnchor anchor event.place
    return s.begin anchor ⟨tag.getD Tag.mapping, event.place, .mapping []⟩ (.mapping · [] none)
  | .sequenceEnd | .mappingEnd => .ok s.finish

end Composer

/-- The nodes of the only document that some events make up, and the number of its root, or none when there is
no document. -/
def Graph.ofEvents? (events : Supply Event) : Except Failure (Graph × Option Nat) := do
  let s ← events.items.foldlM Composer.step ⟨.empty, [], [], none⟩
  match events.failure with
  | some failure => throw failure
  | none => return (s.graph, s.root)

end AccessPolicy.Yaml
