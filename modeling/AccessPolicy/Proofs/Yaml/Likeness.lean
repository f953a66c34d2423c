import AccessPolicy.Proofs.Conditions
import AccessPolicy.Proofs.Yaml.Documents
import AccessPolicy.Proofs.Yaml.Padding
import AccessPolicy.Yaml.Load
import Mathlib.Data.List.Forall2

namespace AccessPolicy.Yaml

namespace Graph

/-- Whether two graphs have the same nodes but for where they start. -/
structure Alike (g g' : Graph) : Prop where
  size : g'.nodes.size = g.nodes.size
  tag : ∀ i, (g'.node i).tag = (g.node i).tag
  content : ∀ i, (g'.node i).content = (g.node i).content

variable {g g' : Graph} {i : Nat}

theorem Alike.refl (g : Graph) : g.Alike g := ⟨rfl, fun _ => rfl, fun _ => rfl⟩

theorem Alike.shape (alike : g.Alike g') (i : Nat) : (g'.node i).shape = (g.node i).shape := by
  unfold Node.shape
  rw [alike.content]

theorem Alike.entries (alike : g.Alike g') (i : Nat) : g'.entries i = g.entries i := by
  unfold Graph.entries
  rw [alike.content]

theorem Alike.add (alike : g.Alike g') {node node' : Node} (tag : node'.tag = node.tag)
    (content : node'.content = node.content) :
    (g.add node).1.Alike (g'.add node').1 ∧ (g'.add node').2 = (g.add node).2 := by
  refine ⟨⟨by simp [Graph.add, alike.size], fun i => ?_, fun i => ?_⟩, alike.size⟩
  · rw [node_add, node_add, alike.size]
    split
    · exact tag
    · exact alike.tag i
  · rw [node_add, node_add, alike.size]
    split
    · exact content
    · exact alike.content i

theorem node_modify_of_size_le {f : Node → Node} {j : Nat} (beyond : g.nodes.size ≤ j) :
    (g.modify i f).node j = g.node j := by
  unfold modify Graph.node
  rw [Array.getD_eq_getD_getElem?, Array.getElem?_eq_none (by simpa using beyond), Array.getD_eq_getD_getElem?,
    Array.getElem?_eq_none beyond]

theorem Alike.modify (alike : g.Alike g') {f : Node → Node}
    (tag : ∀ node node' : Node, node'.tag = node.tag → (f node').tag = (f node).tag)
    (content : ∀ node node' : Node, node'.content = node.content → (f node').content = (f node).content) :
    (g.modify i f).Alike (g'.modify i f) := by
  refine ⟨by simp [Graph.modify, alike.size], fun j => ?_, fun j => ?_⟩
  · rcases Nat.lt_or_ge j g.nodes.size with known | beyond
    · rw [node_modify known, node_modify (alike.size ▸ known)]
      split
      · exact tag _ _ (alike.tag j)
      · exact alike.tag j
    · rw [node_modify_of_size_le beyond, node_modify_of_size_le (alike.size ▸ beyond), alike.tag]
  · rcases Nat.lt_or_ge j g.nodes.size with known | beyond
    · rw [node_modify known, node_modify (alike.size ▸ known)]
      split
      · exact content _ _ (alike.content j)
      · exact alike.content j
    · rw [node_modify_of_size_le beyond, node_modify_of_size_le (alike.size ▸ beyond), alike.content]

theorem Alike.setContent (alike : g.Alike g') (i : Nat) (content : Content) :
    (g.setContent i content).Alike (g'.setContent i content) :=
  alike.modify (fun _ _ same => same) fun _ _ _ => rfl

theorem carries_textWithin (steps : Nat) (alike : g.Alike g') (i : Nat) :
    Carries Eq (g.textWithin steps i) (g'.textWithin steps i) := by
  induction steps generalizing i with
  | zero => exact carries_error
  | succ steps ih =>
    rw [textWithin, textWithin, alike.content, alike.entries]
    simp only [alike.tag]
    split
    · exact carries_ok rfl
    · split
      · exact ih _
      · exact carries_error

theorem Alike.isMerge (alike : g.Alike g') : g'.isMerge = g.isMerge := by
  funext entry
  unfold Graph.isMerge
  rw [alike.tag]

theorem Alike.merges (alike : g.Alike g') : g'.merges = g.merges := by
  unfold Graph.merges
  rw [alike.size, alike.isMerge]
  simp only [alike.entries]

theorem Alike.takeMerge (alike : g.Alike g') (i : Nat) :
    (g.takeMerge? i = none ∧ g'.takeMerge? i = none) ∨ ∃ source h h', g.takeMerge? i = some (source, h) ∧
      g'.takeMerge? i = some (source, h') ∧ h.Alike h' := by
  unfold takeMerge?
  rw [alike.entries, alike.isMerge]
  split
  · rename_i before key source after split
    exact Or.inr ⟨source, _, _, rfl, rfl, alike.setContent i _⟩
  · exact Or.inl ⟨rfl, rfl⟩

theorem Alike.settleDefaults (alike : g.Alike g') (i : Nat) : (g.settleDefaults i).Alike (g'.settleDefaults i) := by
  unfold Graph.settleDefaults
  rw [alike.entries]
  generalize g.entries i = entries
  induction entries generalizing g g' with
  | nil => exact alike
  | cons entry rest ih =>
    refine ih ?_
    dsimp only
    rw [alike.tag]
    split
    · exact alike.modify (fun _ _ _ => rfl) fun _ _ same => same
    · exact alike

theorem carries_mergeSource {resolve resolve' : Graph → Nat → Except Failure Graph}
    (resolves : ∀ {g g'}, Alike g g' → ∀ j, Carries Alike (resolve g j) (resolve' g' j)) (start start' : Mark)
    (alike : g.Alike g') (source : Nat) :
    Carries (fun r r' => r.1.Alike r'.1 ∧ r'.2 = r.2) (mergeSource resolve start g source)
      (mergeSource resolve' start' g' source) := by
  unfold mergeSource
  rw [alike.content]
  split
  · exact (resolves alike source).bind fun h h' kept => carries_ok ⟨kept, kept.entries source⟩
  · refine carries_foldlM ⟨alike, rfl⟩ fun (h, added) (h', added') item _ ⟨sofar, same⟩ => ?_
    dsimp only at same ⊢
    subst same
    rw [sofar.shape]
    split
    · exact carries_error
    · exact (resolves sofar item).bind fun k k' kept => carries_ok ⟨kept, by rw [kept.entries]⟩
  · exact carries_error

theorem carries_resolveWithin (steps : Nat) (alike : g.Alike g') (i : Nat) (added : List (Nat × Nat)) :
    Carries Alike (g.resolveWithin steps i added) (g'.resolveWithin steps i added) := by
  induction steps generalizing g g' i added with
  | zero => exact carries_error
  | succ steps ih =>
    rw [resolveWithin, resolveWithin]
    obtain ⟨none, none'⟩ | ⟨source, h, h', taken, taken', kept⟩ := alike.takeMerge i
    · rw [none, none', alike.entries]
      exact carries_ok ((alike.settleDefaults i).setContent i _)
    · rw [taken, taken']
      have inner {g g' : Graph} (alike : g.Alike g') (j : Nat) :
          Carries Alike (resolveWithin steps g j []) (resolveWithin steps g' j []) := ih alike j []
      refine (carries_mergeSource inner _ _ kept source).bind ?_
      rintro ⟨k, more⟩ ⟨k', _⟩ ⟨resolved, rfl⟩
      exact ih resolved i _

theorem carries_resolve (alike : g.Alike g') (i : Nat) : Carries Alike (g.resolve i) (g'.resolve i) := by
  unfold resolve
  rw [alike.merges]
  exact carries_resolveWithin _ alike i []

end Graph

namespace Making

/-- Whether the same data are made of nodes that are alike, as far as they are made. -/
structure Alike (s s' : Making) : Prop where
  graph : s.graph.Alike s'.graph
  data : s'.data = s.data
  waiting : s'.waiting = s.waiting

/-- Whether the same is made, and the nodes are alike. -/
def Agree {α : Type} (r r' : α × Making) : Prop := r'.1 = r.1 ∧ r.2.Alike r'.2

variable {s s' : Making} {i : Nat}

theorem Alike.keep (alike : s.Alike s') (i : Nat) (datum : Datum) : (s.keep i datum).Alike (s'.keep i datum) :=
  { alike with data := by simp [Making.keep, alike.data] }

theorem carries_ofScalar (tag : String) (text : List Char) (place place' : Mark) :
    Carries Eq ((Atom.ofScalar? tag text place).getD (.ok .null)) ((Atom.ofScalar? tag text place').getD (.ok .null)) := by
  have same {trial : Except Failure Value} : Carries Eq trial trial := fun value given => ⟨value, given, rfl⟩
  unfold Atom.ofScalar?
  split_ifs
  all_goals first | exact same | skip
  dsimp only [Option.getD_some]
  split
  · exact same
  · exact carries_error

theorem isNone_ofScalar (tag : String) (place place' : Mark) :
    (Atom.ofScalar? tag [] place).isNone = (Atom.ofScalar? tag [] place').isNone := by
  unfold Atom.ofScalar?
  split_ifs <;> rfl

theorem carries_atom {g g' : Graph} (alike : g.Alike g') (i : Nat) : Carries Eq (atom g i) (atom g' i) := by
  unfold atom
  dsimp only
  rw [alike.tag, alike.shape, isNone_ofScalar _ (g'.node i).start (g.node i).start]
  split
  · exact carries_error
  · unfold Graph.text
    rw [alike.size]
    refine (Graph.carries_textWithin _ alike i).bind fun text text' same => ?_
    subst same
    split
    · exact carries_error
    · exact (carries_ofScalar _ _ _ _).bind fun value value' same => carries_ok (congrArg (ofNode i) same)

theorem carries_make (alike : s.Alike s') (i : Nat) : Carries Agree (s.make i) (s'.make i) := by
  unfold make
  rw [alike.data, alike.graph.tag]
  split
  · exact carries_ok ⟨rfl, alike⟩
  · split
    · exact carries_ok ⟨rfl, { alike.keep i _ with waiting := by rw [alike.waiting] }⟩
    · refine (carries_atom alike.graph i).bind fun value value' same => ?_
      subst same
      exact carries_ok ⟨rfl, alike.keep i _⟩

theorem carries_fillList (alike : s.Alike s') (i : Nat) : Carries Agree (s.fillList i) (s'.fillList i) := by
  unfold fillList
  dsimp only
  rw [alike.graph.content]
  split
  · refine Carries.bind (R := Alike) (carries_foldlM alike fun t t' item _ sofar => ?_)
      fun t t' filled => carries_ok ⟨rfl, filled⟩
    exact (carries_make sofar item).bind fun r r' made => carries_ok made.2
  · exact carries_error

theorem carries_fillEntries (alike : s.Alike s') (i : Nat) : Carries Agree (s.fillEntries i) (s'.fillEntries i) := by
  unfold fillEntries
  dsimp only
  rw [alike.graph.shape]
  split
  · exact carries_error
  · refine (Graph.carries_resolve alike.graph i).bind fun g g' resolved => ?_
    rw [resolved.entries]
    refine carries_foldlM ⟨rfl, { alike with graph := resolved }⟩
      fun (filled, t) (filled', t') (key, value) _ ⟨same, sofar⟩ => ?_
    dsimp only at same ⊢
    subst same
    refine (carries_make sofar key).bind fun (datum, u) (datum', u') ⟨same, made⟩ => ?_
    dsimp only at same ⊢
    subst same
    split
    · exact (carries_make made value).bind fun r r' made => carries_ok ⟨rfl, made.2⟩
    · exact carries_error

theorem carries_fillPairs (activity : Activity) (alike : s.Alike s') (i : Nat) :
    Carries Agree (s.fillPairs activity i) (s'.fillPairs activity i) := by
  unfold fillPairs
  dsimp only
  rw [alike.graph.content]
  split
  · refine Carries.bind (R := Agree) (carries_foldlM ⟨rfl, alike⟩ fun (pairs, t) (pairs', t') item _ ⟨same, sofar⟩ => ?_)
      fun (pairs, t) (pairs', t') ⟨same, filled⟩ => ?_
    · dsimp only at same ⊢
      subst same
      have sofar : t.Alike t' := sofar
      rw [sofar.graph.content]
      split
      · refine (carries_make sofar _).bind fun r r' made => ?_
        exact (carries_make made.2 _).bind fun r r' made => carries_ok ⟨rfl, made.2⟩
      · exact carries_error
      · exact carries_error
    · dsimp only at same
      subst same
      exact carries_ok ⟨rfl, filled⟩
  · exact carries_error

theorem carries_fill (alike : s.Alike s') (i : Nat) : Carries Alike (s.fill i) (s'.fill i) := by
  have kept {r r' : Datum × Making} (agree : Agree r r') : (r.2.keep i r.1).Alike (r'.2.keep i r'.1) := by
    rw [agree.1]
    exact agree.2.keep i _
  unfold fill
  dsimp only
  rw [alike.graph.tag]
  split
  · exact (carries_fillList alike i).bind fun r r' agree => carries_ok (kept agree)
  · split
    · exact (carries_fillPairs _ alike i).bind fun r r' agree => carries_ok (kept agree)
    · split
      · exact (carries_fillPairs _ alike i).bind fun r r' agree => carries_ok (kept agree)
      · refine (carries_fillEntries alike i).bind fun (entries, t) (entries', t') ⟨same, filled⟩ => ?_
        dsimp only at same
        subst same
        exact carries_ok (filled.keep i _)

theorem carries_fillAll (rounds : Nat) (alike : s.Alike s') : Carries Alike (s.fillAll rounds) (s'.fillAll rounds) := by
  induction rounds generalizing s s' with
  | zero => exact carries_ok alike
  | succ rounds ih =>
    rw [fillAll, fillAll, alike.waiting]
    have start : Alike { s with waiting := [] } { s' with waiting := [] } := { alike with waiting := rfl }
    exact Carries.bind (carries_foldlM start fun t t' i _ sofar => carries_fill sofar i) fun t t' filled => ih filled

theorem Alike.settle (alike : s.Alike s') : s'.settle = s.settle := by
  unfold Making.settle
  rw [alike.data]

theorem Alike.value (alike : s.Alike s') (i : Nat) : s'.value? i = s.value? i := by
  have within (rounds : Nat) (known : Array (Option Value)) :
      s'.valueWithin? i rounds known = s.valueWithin? i rounds known := by
    induction rounds generalizing known with
    | zero => rfl
    | succ rounds ih => rw [valueWithin?, valueWithin?, alike.settle, ih]
  unfold Making.value?
  rw [alike.data, within]

end Making

/-- Nodes that are alike stand for the same data. -/
theorem Graph.carries_data {g g' : Graph} (alike : g.Alike g') (root : Nat) :
    Carries Eq (g.data root) (g'.data root) := by
  have start : Making.Alike ⟨g, .replicate g.nodes.size none, []⟩ ⟨g', .replicate g'.nodes.size none, []⟩ :=
    ⟨alike, by rw [alike.size], rfl⟩
  refine (Making.carries_make start root).bind fun (datum, s) (datum', s') ⟨_, made⟩ => ?_
  rw [alike.size]
  refine (Making.carries_fillAll _ made).bind fun t t' filled => ?_
  rw [filled.value]
  split
  · exact carries_ok rfl
  · exact carries_error

namespace Composer

/-- Whether nodes in the making are the same but for where they start. -/
structure Alike (s s' : Composer) : Prop where
  graph : s.graph.Alike s'.graph
  frames : s'.frames = s.frames
  anchors : List.Forall₂ (fun a a' => a'.1 = a.1 ∧ a'.2.2 = a.2.2) s.anchors s'.anchors
  root : s'.root = s.root

variable {s s' : Composer}

theorem Alike.attach (alike : s.Alike s') (i : Nat) : (s.attach i).Alike (s'.attach i) := by
  unfold Composer.attach
  rw [alike.frames]
  split
  · exact ⟨alike.graph, rfl, alike.anchors, rfl⟩
  · exact ⟨alike.graph, rfl, alike.anchors, alike.root⟩
  · exact ⟨alike.graph, rfl, alike.anchors, alike.root⟩
  · exact ⟨alike.graph, rfl, alike.anchors, alike.root⟩

theorem lookup_alike (alike : s.Alike s') (name : String) :
    (s.anchors.lookup name = none ∧ s'.anchors.lookup name = none) ∨
      ∃ first first' number, s.anchors.lookup name = some (first, number) ∧
        s'.anchors.lookup name = some (first', number) := by
  have anchors := alike.anchors
  generalize s.anchors = whole at anchors ⊢
  generalize s'.anchors = part at anchors ⊢
  induction anchors with
  | nil => exact .inl ⟨rfl, rfl⟩
  | @cons a a' whole part here _ ih =>
    obtain ⟨name₁, first, number⟩ := a
    obtain ⟨name₂, first', number'⟩ := a'
    obtain ⟨same, known⟩ := here
    dsimp only at same known
    subst same known
    rw [List.lookup_cons, List.lookup_cons]
    split
    · exact .inr ⟨first, first', _, rfl, rfl⟩
    · exact ih

theorem carries_checkAnchor (alike : s.Alike s') (anchor : Option String) (place place' : Mark) :
    Carries (fun _ _ => True) (s.checkAnchor anchor place) (s'.checkAnchor anchor place') := by
  unfold checkAnchor
  split
  · exact carries_ok trivial
  · rename_i name
    rcases lookup_alike alike name with ⟨whole, part⟩ | ⟨first, first', number, whole, part⟩
    · rw [whole, part]
      exact carries_ok trivial
    · rw [whole]
      exact carries_error

theorem Alike.name (alike : s.Alike s') (anchor : Option String) (start start' : Mark) (i : Nat) :
    (s.name anchor start i).Alike (s'.name anchor start' i) := by
  unfold Composer.name
  split
  · exact alike
  · exact { alike with anchors := .cons ⟨rfl, rfl⟩ alike.anchors }

theorem Alike.add (alike : s.Alike s') (anchor : Option String) {node node' : Node} (tag : node'.tag = node.tag)
    (content : node'.content = node.content) :
    (s.add anchor node).1.Alike (s'.add anchor node').1 ∧ (s'.add anchor node').2 = (s.add anchor node).2 := by
  obtain ⟨graph, number⟩ := alike.graph.add tag content
  have grown : Alike { s with graph := (s.graph.add node).1 } { s' with graph := (s'.graph.add node').1 } :=
    { alike with graph }
  refine ⟨?_, number⟩
  unfold Composer.add
  dsimp only
  rw [number]
  exact grown.name anchor node.start node'.start _

theorem Alike.take (alike : s.Alike s') (anchor : Option String) {node node' : Node} (tag : node'.tag = node.tag)
    (content : node'.content = node.content) : (s.take anchor node).Alike (s'.take anchor node') := by
  obtain ⟨grown, number⟩ := alike.add anchor tag content
  unfold Composer.take
  dsimp only
  rw [number]
  exact grown.attach _

theorem Alike.begin (alike : s.Alike s') (anchor : Option String) (node node' : Node) (tag : node'.tag = node.tag)
    (content : node'.content = node.content) (frame : Nat → Frame) :
    (s.begin anchor node frame).Alike (s'.begin anchor node' frame) := by
  obtain ⟨grown, number⟩ := alike.add anchor tag content
  unfold Composer.begin
  dsimp only
  rw [number]
  exact ⟨grown.graph, congrArg (frame _ :: ·) grown.frames, grown.anchors, grown.root⟩

theorem Alike.finish (alike : s.Alike s') : s.finish.Alike s'.finish := by
  unfold Composer.finish
  rw [alike.frames]
  split
  · exact alike
  · refine Alike.attach ?_ _
    exact ⟨alike.graph.setContent _ _, rfl, alike.anchors, alike.root⟩
  · refine Alike.attach ?_ _
    exact ⟨alike.graph.setContent _ _, rfl, alike.anchors, alike.root⟩

theorem carries_findAlias (alike : s.Alike s') (name : String) (place place' : Mark) :
    Carries Eq (s.findAlias name place) (s'.findAlias name place') := by
  unfold findAlias
  rcases lookup_alike alike name with ⟨whole, part⟩ | ⟨first, first', number, whole, part⟩
  · rw [whole]
    exact carries_error
  · rw [whole, part]
    exact carries_ok rfl

/-- Events of the same kind add nodes that are alike. -/
theorem carries_step (alike : s.Alike s') {event event' : Event} (same : event'.what = event.what) :
    Carries Alike (s.step event) (s'.step event') := by
  unfold step
  rw [same]
  split
  · exact carries_ok alike
  · exact carries_ok alike
  · rw [alike.root]
    split
    · exact carries_error
    · exact carries_ok alike
  · exact carries_ok { alike with anchors := .nil }
  · refine (carries_findAlias alike _ _ _).bind fun i i' same => ?_
    subst same
    exact carries_ok (alike.attach i)
  · exact (carries_checkAnchor alike _ _ _).bind fun _ _ _ => carries_ok (alike.take _ rfl rfl)
  · exact (carries_checkAnchor alike _ _ _).bind fun _ _ _ =>
      carries_ok (alike.begin _ ⟨_, event.place, .sequence []⟩ ⟨_, event'.place, .sequence []⟩ rfl rfl _)
  · exact (carries_checkAnchor alike _ _ _).bind fun _ _ _ =>
      carries_ok (alike.begin _ ⟨_, event.place, .mapping []⟩ ⟨_, event'.place, .mapping []⟩ rfl rfl _)
  · exact carries_ok alike.finish
  · exact carries_ok alike.finish

theorem carries_steps (alike : s.Alike s') {events events' : List Event}
    (same : events'.map (·.what) = events.map (·.what)) :
    Carries Alike (events.foldlM step s) (events'.foldlM step s') := by
  induction events generalizing events' s s' with
  | nil =>
    rw [List.map_eq_nil_iff.mp same]
    exact carries_ok alike
  | cons event events ih =>
    obtain ⟨event', events', rfl, here, there⟩ := List.map_eq_cons_iff.mp same
    rw [List.foldlM_cons, List.foldlM_cons]
    exact (carries_step alike here).bind fun t t' next => ih next there

theorem Alike.refl (s : Composer) : s.Alike s :=
  ⟨.refl _, rfl, List.forall₂_same.mpr fun _ _ => ⟨rfl, rfl⟩, rfl⟩

theorem carries_value (alike : s.Alike s') : Carries Eq s.value (rootData (s'.graph, s'.root)) := by
  unfold value
  rw [alike.root]
  cases s.root with
  | none => exact carries_ok rfl
  | some root => exact Graph.carries_data alike.graph root

/-- Of the nodes of a document data are made where it ends. -/
theorem values_nodes {failure : Option Failure} {inner : List Event} (nodes : ∀ event ∈ inner, event.what.isNode = true)
    (rest : List Event) (s : Composer) :
    s.values failure (inner ++ rest) = inner.foldlM step s >>= fun s => s.values failure rest := by
  induction inner generalizing s with
  | nil => rfl
  | cons event inner ih =>
    obtain ⟨here, there⟩ := List.forall_mem_cons.mp nodes
    rw [List.cons_append, values, List.foldlM_cons, bind_assoc]
    refine congrArg _ (funext fun s => ?_)
    rw [← ih there]
    split
    · rename_i ends
      simp [ends, Happening.isNode] at here
    · rfl

theorem step_opening {event : Event} (starts : event.what = .documentStart) : fresh.step event = .ok fresh := by
  unfold step
  rw [starts]
  rfl

theorem step_closing {event : Event} (ends : event.what = .documentEnd) (s : Composer) :
    s.step event = .ok { s with anchors := [] } := by
  unfold step
  rw [ends]

/-- The data of the first document of a text come before those of the others, which are made as if there were no first
one. -/
theorem values_first {first last : Event} {inner rest : List Event} {values : List Value}
    (starts : first.what = .documentStart) (ends : last.what = .documentEnd)
    (nodes : ∀ event ∈ inner, event.what.isNode = true)
    (loaded : fresh.values none (first :: (inner ++ last :: rest)) = .ok values) :
    ∃ s v vs, inner.foldlM step fresh = .ok s ∧ s.value = .ok v ∧ fresh.values none rest = .ok vs ∧
      values = v :: vs := by
  have whole : fresh.values none (first :: (inner ++ last :: rest)) = fresh.values none (inner ++ last :: rest) := by
    rw [Composer.values, step_opening starts]
    dsimp only [bind, Except.bind]
    rw [starts]
  rw [whole, values_nodes nodes] at loaded
  cases taken : inner.foldlM step fresh with
  | error failure => simp [taken, bind, Except.bind] at loaded
  | ok s =>
    rw [taken] at loaded
    dsimp only [bind, Except.bind] at loaded
    rw [Composer.values, step_closing ends] at loaded
    dsimp only [bind, Except.bind] at loaded
    rw [ends] at loaded
    have same : Composer.value { s with anchors := [] } = s.value := rfl
    cases made : s.value with
    | error failure => simp [same, made] at loaded
    | ok v =>
      cases later : fresh.values none rest with
      | error failure => simp [same, made, later] at loaded
      | ok vs =>
        rw [same, made] at loaded
        dsimp only [bind, Except.bind] at loaded
        rw [later] at loaded
        exact ⟨s, v, vs, rfl, made, rfl, (Except.ok.inj loaded).symm⟩

/-- The data of a text that is one document. -/
theorem rootData_document {opening closing ending : Event} {inner : List Event}
    (opens : opening.what = .documentStart) (closes : closing.what = .documentEnd) (ended : ending.what = .streamEnd)
    (taken : inner.foldlM step fresh = .ok s) :
    Graph.ofEvents? ⟨opening :: (inner ++ [closing, ending]), none⟩ >>= rootData = rootData (s.graph, s.root) := by
  have last : ({ s with anchors := [] } : Composer).step ending = .ok { s with anchors := [] } := by
    unfold step
    rw [ended]
  unfold Graph.ofEvents?
  dsimp only
  change ((opening :: (inner ++ [closing, ending])).foldlM step fresh >>= _) >>= _ = _
  rw [List.foldlM_cons, step_opening opens]
  dsimp only [bind, Except.bind]
  rw [List.foldlM_append, taken]
  dsimp only [bind, Except.bind]
  rw [List.foldlM_cons, step_closing closes]
  dsimp only [bind, Except.bind]
  rw [List.foldlM_cons, last]
  rfl

/-- The data of a document are those of a text that has no other one. -/
theorem values_document {first last opening closing ending : Event} {inner inner' rest : List Event}
    {values : List Value} (starts : first.what = .documentStart) (ends : last.what = .documentEnd)
    (nodes : ∀ event ∈ inner, event.what.isNode = true) (same : inner'.map (·.what) = inner.map (·.what))
    (opens : opening.what = .documentStart) (closes : closing.what = .documentEnd) (ended : ending.what = .streamEnd)
    (loaded : fresh.values none (first :: (inner ++ last :: rest)) = .ok values) :
    ∃ v vs, values = v :: vs ∧ fresh.values none rest = .ok vs ∧
      Graph.ofEvents? ⟨opening :: (inner' ++ [closing, ending]), none⟩ >>= rootData = .ok v := by
  obtain ⟨s, v, vs, taken, made, later, rfl⟩ := values_first starts ends nodes loaded
  obtain ⟨s', taken', alike⟩ := carries_steps (.refl fresh) same s taken
  obtain ⟨v', made', rfl⟩ := carries_value alike v made
  exact ⟨v, vs, rfl, later, (rootData_document opens closes ended taken').trans made'⟩

end Composer

section Loading

open Grammar (Makes)

variable {text : List Char} {tokens : List Token} {events : List Event} {values : List Value}

/-- Before the first document. -/
def Grammar.opening (tokens : List Token) : Grammar := ⟨tokens, [.firstDocument], [], commonHandles⟩

theorem tokens_eq (unmarked : text.head? ≠ some '\ufeff') : Yaml.tokens text = freshTokens text := by
  unfold Yaml.tokens freshTokens
  rw [Cutter.start_eq unmarked]

theorem freshTokens_of_runs (runs : Cutter.Runs (.fresh text) tokens) :
    freshTokens text = ⟨⟨.streamStart, (Cursor.start text).mark, (Cursor.start text).mark⟩ :: tokens, none⟩ := by
  unfold freshTokens
  rw [(Cutter.run_eq_iff (s := .fresh text) (Nat.lt_succ_self text.length)).mpr runs]

/-- What a text is loaded to, if it is cut into tokens that make up events. -/
theorem load_of_makes (unmarked : text.head? ≠ some '\ufeff') (allowed : firstForbidden? text = none)
    (runs : Cutter.Runs (.fresh text) tokens) (makes : Makes (.opening tokens) events) :
    load text = Graph.ofEvents? ⟨events, none⟩ >>= rootData := by
  have made : Grammar.run none (5 * tokens.length + 9) (.opening tokens) = ⟨events, none⟩ := by
    refine (Grammar.run_eq_iff ?_).mpr makes
    simp [Grammar.potential, Grammar.opening, Expected.weight]
  rw [load_of_allowed allowed, tokens_eq unmarked, freshTokens_of_runs runs, ofEvents_start]
  exact congrArg (fun supply => Graph.ofEvents? supply >>= rootData) made

theorem values_failure {failure : Option Failure} {s : Composer} (loaded : s.values failure events = .ok values) :
    failure = none := by
  induction events generalizing s values with
  | nil =>
    cases failure with
    | none => rfl
    | some failure => cases loaded
  | cons event events ih =>
    rw [Composer.values] at loaded
    cases next : s.step event with
    | error failure => simp [next, bind, Except.bind] at loaded
    | ok s' =>
      rw [next] at loaded
      dsimp only [bind, Except.bind] at loaded
      split at loaded
      · cases later : Composer.fresh.values failure events with
        | ok vs => exact ih later
        | error fault =>
          rw [later] at loaded
          cases made : s'.value <;> simp [made] at loaded
      · exact ih loaded

theorem Grammar.run_failure {later : Option Failure} {steps : Nat} {g : Grammar}
    (ended : (run later steps g).failure = none) :
    later = none := by
  induction steps generalizing g with
  | zero => exact ended
  | succ steps ih =>
    rw [run] at ended
    split at ended
    · exact ended
    · cases ended
    · exact ih ended

/-- A text whose documents are loaded is cut into tokens to its end, and they make up events to the end. -/
theorem exists_makes_of_loadAll (unmarked : text.head? ≠ some '\ufeff') (loaded : loadAll text = .ok values) :
    firstForbidden? text = none ∧ ∃ tokens events, Cutter.Runs (.fresh text) tokens ∧ Makes (.opening tokens) events ∧
      Composer.fresh.values none events = .ok values := by
  unfold loadAll at loaded
  split at loaded
  · cases loaded
  · rename_i allowed
    refine ⟨allowed, ?_⟩
    rw [tokens_eq unmarked] at loaded
    unfold freshTokens at loaded
    dsimp only at loaded
    cases taken : Cutter.run (text.length + 1) (Cutter.fresh text) with
    | mk tokens failure =>
      rw [taken] at loaded
      have steps : 5 * (tokens.length + 1) + 5 = (5 * tokens.length + 9) + 1 := by omega
      unfold Yaml.events at loaded
      dsimp only at loaded
      rw [List.length_cons, steps] at loaded
      change Composer.fresh.values (Grammar.run failure (5 * tokens.length + 9) (.opening tokens)).failure
        (_ :: (Grammar.run failure (5 * tokens.length + 9) (.opening tokens)).items) = .ok values at loaded
      cases made : Grammar.run failure (5 * tokens.length + 9) (.opening tokens) with
      | mk events late =>
        rw [made] at loaded
        obtain rfl : late = none := values_failure loaded
        obtain rfl : failure = none := Grammar.run_failure (congrArg Supply.failure made)
        refine ⟨tokens, events, ?_, (Grammar.run_eq_iff ?_).mp made, loaded⟩
        · exact (Cutter.run_eq_iff (s := .fresh text) (Nat.lt_succ_self text.length)).mp taken
        · simp [Grammar.potential, Grammar.opening, Expected.weight]

end Loading

end AccessPolicy.Yaml
