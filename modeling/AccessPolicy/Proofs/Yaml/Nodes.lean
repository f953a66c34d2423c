import AccessPolicy.Proofs.Yaml.Places
import AccessPolicy.Yaml.Merge
import Mathlib.Data.List.TakeDrop

namespace AccessPolicy.Yaml

variable {P : Mark → Prop} {place : Mark} {n : Nat}

/-- Whether all parts have numbers below a bound. -/
def Content.Below (n : Nat) : Content → Prop
  | scalar _ => True
  | sequence items => ∀ i ∈ items, i < n
  | mapping entries => ∀ entry ∈ entries, entry.1 < n ∧ entry.2 < n

theorem Content.Below.mono {content : Content} {m : Nat} (below : content.Below n) (le : n ≤ m) : content.Below m := by
  cases content with
  | scalar text => trivial
  | sequence items => exact fun i member => Nat.lt_of_lt_of_le (below i member) le
  | mapping entries =>
    exact fun entry member =>
      ⟨Nat.lt_of_lt_of_le (below entry member).1 le, Nat.lt_of_lt_of_le (below entry member).2 le⟩

namespace Graph

variable {g : Graph} {i j : Nat}

/-- Whether a graph has a number of nodes, which start at places of a kind and whose parts are among them. -/
structure Places (P : Mark → Prop) (n : Nat) (g : Graph) : Prop where
  size : g.nodes.size = n
  start : ∀ i < n, P (g.node i).start
  parts : ∀ i < n, (g.node i).content.Below n

theorem Places.entries (places : g.Places P n) (known : i < n) : ∀ entry ∈ g.entries i, entry.1 < n ∧ entry.2 < n := by
  have parts := places.parts i known
  unfold Graph.entries
  cases content : (g.node i).content with
  | mapping entries => rwa [content] at parts
  | _ => exact fun _ member => nomatch member

theorem node_add (node : Node) (i : Nat) :
    (g.add node).1.node i = if i = g.nodes.size then node else g.node i := by
  unfold add Graph.node
  rw [Array.getD_eq_getD_getElem?, Array.getElem?_push, Array.getD_eq_getD_getElem?]
  split <;> rfl

theorem Places.add (places : g.Places P n) {node : Node} (start : P node.start) (parts : node.content.Below n) :
    (g.add node).1.Places P (n + 1) := by
  have grown : (g.add node).1.nodes.size = n + 1 := by simp [Graph.add, places.size]
  have old {i : Nat} (before : i < n + 1) (other : i ≠ g.nodes.size) : i < n := by
    have := places.size
    omega
  refine ⟨grown, fun i before => ?_, fun i before => ?_⟩
  · rw [node_add]
    split
    · exact start
    · rename_i other
      exact places.start i (old before other)
  · rw [node_add]
    split
    · exact parts.mono (Nat.le_succ n)
    · rename_i other
      exact (places.parts i (old before other)).mono (Nat.le_succ n)

theorem node_modify {f : Node → Node} {j : Nat} (known : j < g.nodes.size) :
    (g.modify i f).node j = if i = j then f (g.node j) else g.node j := by
  unfold modify Graph.node
  rw [Array.getD_eq_getD_getElem?, Array.getElem?_modify, Array.getD_eq_getD_getElem?, Array.getElem?_eq_getElem known]
  split <;> rfl

/-- A node may be changed at its place to one with parts among the others. -/
theorem Places.modify (places : g.Places P n) {f : Node → Node} (start : ∀ node, (f node).start = node.start)
    (parts : ∀ node, node.content.Below n → (f node).content.Below n) : (g.modify i f).Places P n := by
  refine ⟨by simpa [Graph.modify] using places.size, fun j known => ?_, fun j known => ?_⟩
  · rw [node_modify (places.size ▸ known)]
    split
    · rw [start]
      exact places.start j known
    · exact places.start j known
  · rw [node_modify (places.size ▸ known)]
    split
    · exact parts _ (places.parts j known)
    · exact places.parts j known

theorem Places.setContent (places : g.Places P n) {content : Content} (parts : content.Below n) :
    (g.setContent i content).Places P n :=
  places.modify (fun _ => rfl) fun _ _ => parts

theorem places_fault {during : Option (Activity × Option Mark)} {problem : Problem} (here : P place)
    (began : ∀ activity mark, during = some (activity, some mark) → P mark) :
    (fault during problem place).Places P := failure_places_form here began

/-- A fault that is met during an activity which began at a place. -/
theorem places_fault_during {activity : Activity} {problem : Problem} {began : Mark} (started : P began) (here : P place) :
    (fault (some (activity, some began)) problem place).Places P :=
  places_fault here fun _ _ same => Option.some.inj (Prod.mk.inj (Option.some.inj same)).2 ▸ started

theorem places_fault_alone {problem : Problem} (here : P place) : (fault none problem place).Places P :=
  places_fault here fun _ _ none => nomatch none

theorem meets_textWithin (steps : Nat) (places : g.Places P n) (known : i < n) :
    Meets (fun _ => True) (Failure.Places P) (g.textWithin steps i) := by
  induction steps generalizing i with
  | zero => exact places_fault_alone (places.start i known)
  | succ steps ih =>
    rw [textWithin]
    split
    · trivial
    · split
      · rename_i key value found
        exact ih (places.entries known _ (List.mem_of_find?_eq_some found)).2
      · exact places_fault_alone (places.start i known)

/-- To take a merge key out keeps the nodes where they are, and what it names is a node. -/
theorem Places.takeMerge (places : g.Places P n) (known : i < n) {source : Nat} {g' : Graph}
    (taken : g.takeMerge? i = some (source, g')) : g'.Places P n ∧ source < n := by
  have parts := places.entries known
  unfold takeMerge? at taken
  split at taken
  · rename_i before key source' after split
    obtain ⟨rfl, rfl⟩ := Prod.mk.inj (Option.some.inj taken)
    rw [List.span_eq_takeWhile_dropWhile, Prod.mk.injEq] at split
    rw [← List.takeWhile_append_dropWhile (p := (!g.isMerge ·)) (l := g.entries i), split.1, split.2,
      List.forall_mem_append, List.forall_mem_cons] at parts
    exact ⟨places.setContent (List.forall_mem_append.mpr ⟨parts.1, parts.2.2⟩), parts.2.1.2⟩
  · cases taken

theorem Places.settleDefaults (places : g.Places P n) : (g.settleDefaults i).Places P n := by
  unfold Graph.settleDefaults
  generalize g.entries i = entries
  induction entries generalizing g with
  | nil => exact places
  | cons entry rest ih =>
    refine ih ?_
    dsimp only
    split
    · exact places.modify (fun _ => rfl) fun _ below => below
    · exact places

theorem meets_mergeSource {resolve : Graph → Nat → Except Failure Graph} {start : Mark} {source : Nat}
    (resolves : ∀ g j, g.Places P n → j < n → Meets (Places P n) (Failure.Places P) (resolve g j)) (started : P start)
    (places : g.Places P n) (known : source < n) :
    Meets (fun r => r.1.Places P n ∧ ∀ entry ∈ r.2, entry.1 < n ∧ entry.2 < n) (Failure.Places P)
      (mergeSource resolve start g source) := by
  have parts := places.parts source known
  unfold mergeSource
  split
  · refine (resolves g source places known).bind fun g' kept => ?_
    exact ⟨kept, kept.entries known⟩
  · rename_i items content
    rw [content] at parts
    refine meets_foldlM ⟨places, fun _ member => nomatch member⟩ fun (g, added) item member ⟨places, known⟩ => ?_
    have here := parts item member
    dsimp only
    split
    · exact places_fault_during started (places.start item here)
    · refine (resolves g item places here).bind fun g' kept => ?_
      exact ⟨kept, List.forall_mem_append.mpr ⟨kept.entries here, known⟩⟩
  · exact places_fault_during started (places.start source known)

theorem meets_resolveWithin (steps : Nat) {added : List (Nat × Nat)} (places : g.Places P n) (known : i < n)
    (new : ∀ entry ∈ added, entry.1 < n ∧ entry.2 < n) :
    Meets (Places P n) (Failure.Places P) (g.resolveWithin steps i added) := by
  induction steps generalizing g i added with
  | zero => exact places_fault_alone (places.start i known)
  | succ steps ih =>
    rw [resolveWithin]
    split
    · exact places.settleDefaults.setContent (List.forall_mem_append.mpr ⟨new, places.entries known⟩)
    · rename_i source g' taken
      obtain ⟨kept, named⟩ := places.takeMerge known taken
      have inner : ∀ g j, Places P n g → j < n → Meets (Places P n) (Failure.Places P) (resolveWithin steps g j []) :=
        fun g j places known => ih places known fun _ none => nomatch none
      refine (meets_mergeSource inner (kept.start i known) kept named).bind fun (resolved, more) ⟨placed, below⟩ => ?_
      exact ih placed known (List.forall_mem_append.mpr ⟨new, below⟩)

theorem meets_resolve (places : g.Places P n) (known : i < n) :
    Meets (Places P n) (Failure.Places P) (g.resolve i) :=
  meets_resolveWithin _ places known fun _ none => nomatch none

end Graph

/-- Whether the numbers of a collection that has not ended and of its parts are below a bound. -/
def Frame.Below (n : Nat) : Frame → Prop
  | sequence number items => number < n ∧ ∀ i ∈ items, i < n
  | mapping number entries key =>
    number < n ∧ (∀ entry ∈ entries, entry.1 < n ∧ entry.2 < n) ∧ ∀ i, key = some i → i < n

theorem Frame.Below.mono {frame : Frame} {m : Nat} (below : frame.Below n) (le : n ≤ m) : frame.Below m := by
  cases frame with
  | sequence number items =>
    exact ⟨Nat.lt_of_lt_of_le below.1 le, fun i member => Nat.lt_of_lt_of_le (below.2 i member) le⟩
  | mapping number entries key =>
    obtain ⟨here, parts, waiting⟩ := below
    exact ⟨Nat.lt_of_lt_of_le here le, fun entry member => ⟨Nat.lt_of_lt_of_le (parts entry member).1 le,
      Nat.lt_of_lt_of_le (parts entry member).2 le⟩, fun i same => Nat.lt_of_lt_of_le (waiting i same) le⟩

namespace Composer

variable {s : Composer} {i : Nat}

/-- Whether nodes in the making start at places of a kind, and whatever is a node by its number is one. -/
structure Places (P : Mark → Prop) (n : Nat) (s : Composer) : Prop where
  graph : s.graph.Places P n
  frames : ∀ frame ∈ s.frames, frame.Below n
  anchors : ∀ entry ∈ s.anchors, P entry.2.1 ∧ entry.2.2 < n
  root : ∀ i, s.root = some i → i < n

theorem Places.framed (places : s.Places P n) {frames : List Frame} (known : ∀ frame ∈ frames, frame.Below n) :
    Places P n { s with frames } :=
  { places with frames := known }

theorem Places.lookup (places : s.Places P n) {name : String} {first : Mark} {number : Nat}
    (found : s.anchors.lookup name = some (first, number)) : P first ∧ number < n := by
  obtain ⟨before, after, split, _⟩ := List.lookup_eq_some_iff.mp found
  exact places.anchors (name, first, number) (by simp [split])

theorem Places.attach (places : s.Places P n) (known : i < n) : (s.attach i).Places P n := by
  have frames := places.frames
  unfold Composer.attach
  split
  · exact { places with root := fun j same => Option.some.inj same ▸ known }
  · rename_i here
    rw [here, List.forall_mem_cons] at frames
    obtain ⟨⟨number, parts⟩, outer⟩ := frames
    exact places.framed (List.forall_mem_cons.mpr ⟨⟨number, List.forall_mem_cons.mpr ⟨known, parts⟩⟩, outer⟩)
  · rename_i here
    rw [here, List.forall_mem_cons] at frames
    obtain ⟨⟨number, parts, _⟩, outer⟩ := frames
    exact places.framed (List.forall_mem_cons.mpr ⟨⟨number, parts, fun j same => Option.some.inj same ▸ known⟩, outer⟩)
  · rename_i here
    rw [here, List.forall_mem_cons] at frames
    obtain ⟨⟨number, parts, waiting⟩, outer⟩ := frames
    refine places.framed (List.forall_mem_cons.mpr ⟨⟨number, ?_, fun j none => nomatch none⟩, outer⟩)
    exact List.forall_mem_cons.mpr ⟨⟨waiting _ rfl, known⟩, parts⟩

theorem meets_checkAnchor (anchor : Option String) (places : s.Places P n) (here : P place) :
    Meets (fun _ => True) (Failure.Places P) (s.checkAnchor anchor place) := by
  unfold checkAnchor
  split
  · trivial
  · split
    · rename_i found
      have started := (places.lookup found).1
      exact failure_places_form here fun _ _ same => Option.some.inj (Prod.mk.inj (Option.some.inj same)).2 ▸ started
    · trivial

theorem Places.name (places : s.Places P n) (anchor : Option String) (here : P place) (known : i < n) :
    (s.name anchor place i).Places P n := by
  unfold Composer.name
  split
  · exact places
  · exact { places with anchors := List.forall_mem_cons.mpr ⟨⟨here, known⟩, places.anchors⟩ }

theorem Places.add (places : s.Places P n) (anchor : Option String) {node : Node} (start : P node.start)
    (parts : node.content.Below n) : (s.add anchor node).1.Places P (n + 1) ∧ (s.add anchor node).2 < n + 1 := by
  have grown : Places P (n + 1) { s with graph := (s.graph.add node).1 } :=
    ⟨places.graph.add start parts, fun frame member => (places.frames frame member).mono (Nat.le_succ n),
      fun entry member => ⟨(places.anchors entry member).1, Nat.lt_succ_of_lt (places.anchors entry member).2⟩,
      fun i same => Nat.lt_succ_of_lt (places.root i same)⟩
  have number : (s.graph.add node).2 < n + 1 := by
    rw [← places.graph.size]
    exact Nat.lt_succ_self _
  exact ⟨grown.name anchor start number, number⟩

theorem Places.take (places : s.Places P n) (anchor : Option String) (node : Node) (start : P node.start)
    (parts : node.content.Below n) : (s.take anchor node).Places P (n + 1) := by
  obtain ⟨grown, number⟩ := places.add anchor start parts
  exact grown.attach number

theorem Places.begin (places : s.Places P n) (anchor : Option String) (node : Node) (start : P node.start)
    (parts : node.content.Below n) {frame : Nat → Frame} (opened : ∀ i < n + 1, (frame i).Below (n + 1)) :
    (s.begin anchor node frame).Places P (n + 1) := by
  obtain ⟨grown, number⟩ := places.add anchor start parts
  exact grown.framed (List.forall_mem_cons.mpr ⟨opened _ number, grown.frames⟩)

theorem Places.finish (places : s.Places P n) : s.finish.Places P n := by
  have frames := places.frames
  unfold Composer.finish
  split
  · exact places
  · rename_i here
    rw [here, List.forall_mem_cons] at frames
    obtain ⟨⟨number, parts⟩, outer⟩ := frames
    have ended : Places P n { s with frames := _ } := places.framed outer
    refine Places.attach { ended with graph := places.graph.setContent fun i member => ?_ } number
    exact parts i (List.mem_reverse.mp member)
  · rename_i here
    rw [here, List.forall_mem_cons] at frames
    obtain ⟨⟨number, parts, _⟩, outer⟩ := frames
    have ended : Places P n { s with frames := _ } := places.framed outer
    refine Places.attach { ended with graph := places.graph.setContent fun entry member => ?_ } number
    exact parts entry (List.mem_reverse.mp member)

theorem meets_findAlias (name : String) (places : s.Places P n) (here : P place) :
    Meets (· < n) (Failure.Places P) (s.findAlias name place) := by
  unfold findAlias
  split
  · rename_i i found
    exact (places.lookup found).2
  · exact failure_places_form here fun _ _ none => nomatch none

theorem meets_step {event : Event} (places : s.Places P n) (here : P event.place) :
    Meets (fun s' => ∃ m, s'.Places P m) (Failure.Places P) (s.step event) := by
  unfold step
  split
  · exact ⟨n, places⟩
  · exact ⟨n, places⟩
  · split
    · rename_i root found
      have started := places.graph.start root (places.root root found)
      exact failure_places_form here fun _ _ same => Option.some.inj (Prod.mk.inj (Option.some.inj same)).2 ▸ started
    · exact ⟨n, places⟩
  · exact ⟨n, { places with anchors := fun _ member => nomatch member }⟩
  · exact (meets_findAlias _ places here).bind fun i known => ⟨n, places.attach known⟩
  · exact (meets_checkAnchor _ places here).bind fun _ _ => ⟨n + 1, places.take _ ⟨_, event.place, _⟩ here trivial⟩
  · refine (meets_checkAnchor _ places here).bind fun _ _ => ⟨n + 1, ?_⟩
    exact places.begin _ ⟨_, event.place, .sequence []⟩ here (fun _ none => nomatch none) fun i known =>
      ⟨known, fun _ none => nomatch none⟩
  · refine (meets_checkAnchor _ places here).bind fun _ _ => ⟨n + 1, ?_⟩
    exact places.begin _ ⟨_, event.place, .mapping []⟩ here (fun _ none => nomatch none) fun i known =>
      ⟨known, fun _ none => (nomatch none), fun _ none => nomatch none⟩
  · exact ⟨n, places.finish⟩
  · exact ⟨n, places.finish⟩

end Composer

/-- The nodes that events make up start where events stand, and the root is one of them. -/
theorem meets_ofEvents {events : Supply Event} (known : events.Places P fun event => P event.place) :
    Meets (fun r => ∃ n, r.1.Places P n ∧ ∀ root, r.2 = some root → root < n) (Failure.Places P)
      (Graph.ofEvents? events) := by
  have empty : Composer.Places P 0 ⟨.empty, [], [], none⟩ :=
    ⟨⟨rfl, fun i none => (nomatch none), fun i none => nomatch none⟩, fun _ member => (nomatch member),
      fun _ member => (nomatch member), fun i none => nomatch none⟩
  unfold Graph.ofEvents?
  refine Meets.bind (P := fun s => ∃ n, Composer.Places P n s)
    (meets_foldlM ⟨0, empty⟩ fun s event member ⟨n, places⟩ => ?_) fun s ⟨n, places⟩ => ?_
  · exact Composer.meets_step places (known.items event member)
  · split
    · rename_i failure failed
      exact known.failure failure failed
    · exact ⟨n, places.graph, places.root⟩

end AccessPolicy.Yaml
