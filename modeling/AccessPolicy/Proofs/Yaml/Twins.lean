import AccessPolicy.Proofs.Yaml.Bracketing
import AccessPolicy.Proofs.Yaml.Progress

namespace AccessPolicy.Yaml

theorem Word.border_cases {word : Word} (border : word.isBorder = true) :
    (∃ d, word = .directive d) ∨ word = .documentStart ∨ word = .documentEnd ∨ word = .streamEnd := by
  cases word <;> first | (cases border; done) | simp

/-- How many brackets are open behind some words, given how many are before them. -/
def levelFrom (n : Nat) (words : List Word) : Nat := words.foldl (fun n word => word.levelBehind n) n

theorem level_reverse (tokens : List Token) : level tokens.reverse = levelFrom 0 (tokens.map (·.word)) := by
  rw [level, levelFrom, List.foldr_reverse, List.foldl_map]

/-- How many brackets are open where something is expected inside a collection. -/
def Expected.depth : Expected → Nat
  | .flowSequenceEntry | .flowPairKey | .flowPairValue | .flowPairEnd | .flowMappingKey | .flowMappingValue
  | .flowMappingNoValue => 1
  | _ => 0

/-- The word of the token that has to be next where something is expected, if it has to be a certain one. -/
def Expected.indicator? : Expected → Option Word
  | .blockSequenceStart => some .blockSequenceStart
  | .blockMappingStart => some .blockMappingStart
  | .flowSequenceStart => some .flowSequenceStart
  | .flowMappingStart => some .flowMappingStart
  | .flowPairKey => some .key
  | _ => none

/-- Whether something may be expected in a document whatever token is next. -/
def Expected.isSettled : Expected → Bool
  | .streamStart | .firstDocument | .document | .documentEnd => false
  | next => next.indicator?.isNone

/-- Whether what happens concerns a node. -/
def Happening.isNode : Happening → Bool
  | .streamStart | .streamEnd | .documentStart | .documentEnd => false
  | _ => true

/-- Whether tokens start with a mark of documents. -/
def StartsAtBorder (tokens : List Token) : Prop := ∃ border rest, tokens = border :: rest ∧ border.word.isBorder = true

namespace Grammar

/-- Whether the tokens to come are those of some words and then others. -/
def Stands (later : List Token) (inner : List Word) (g : Grammar) : Prop :=
  ∃ tokens, g.tokens = tokens ++ later ∧ tokens.map (·.word) = inner

/-- Whether two grammars are at the same point of a document: the same words stand before the next mark of each. So many
brackets are open at the mark, if as many are open here as is expected to be closed and some more. -/
structure Twin (later later' : List Token) (n more : Nat) (inner : List Word) (g g' : Grammar) : Prop where
  whole : g.Stands later inner
  part : g'.Stands later' inner
  marks : StartsAtBorder later ∧ StartsAtBorder later'
  clear : ∀ word ∈ inner, word.isBorder = false
  level : levelFrom ((g.expected.map Expected.depth).sum + more) inner = n
  settled : ∃ nodes, g.expected = nodes ++ [.documentEnd] ∧ ∀ next ∈ nodes, next.isSettled = true
  expected : g'.expected = g.expected
  handles : g'.handles = g.handles

/-- Whether two grammars are at the same point of a document, with the token there that a collection starts with if one
is expected. -/
inductive Pair (later later' : List Token) (n : Nat) : Grammar → Grammar → Prop
  | settled {inner : List Word} {g g' : Grammar} (twin : Twin later later' n 0 inner g g') : Pair later later' n g g'
  | begins {next : Expected} {word : Word} {inner : List Word} {g g' : Grammar} (starts : next.indicator? = some word)
      (twin : Twin later later' n next.depth (word :: inner) g g') : Pair later later' n (g.expect next) (g'.expect next)

/-- Whether the same happens, which concerns a node, and the grammars are at the same point afterwards. -/
structure Agree (later later' : List Token) (n : Nat) (r r' : Event × Grammar) : Prop where
  same : r'.1.what = r.1.what
  node : r.1.what.isNode = true
  pair : Pair later later' n r.2 r'.2

/-- Whether a trial does not run out of tokens, and another gives what it gives up to a relation. -/
def Parallel {α α' : Type} (R : α → α' → Prop) (first : Except Halt α) (second : Except Halt α') : Prop :=
  first ≠ .error .noToken ∧ Carries R first second

/-- What two grammars at the same point see: marks where the words are spent, and otherwise the same word. -/
inductive Sees : List Word → Token → Token → Prop
  | border {token token' : Token} (whole : token.word.isBorder = true) (part : token'.word.isBorder = true) :
      Sees [] token token'
  | word {inner : List Word} {token token' : Token} (same : token'.word = token.word) : Sees (token.word :: inner) token token'

variable {later later' : List Token} {n k k' : Nat} {inner : List Word} {word : Word} {g g' : Grammar} {token token' : Token}
  {next : Expected} {e e' : Event}

section Parallel

variable {α α' β β' : Type} {R : α → α' → Prop} {Q : β → β' → Prop} {first : Except Halt α} {second : Except Halt α'}

theorem parallel_ok {x : α} {y : α'} (related : R x y) : Parallel R (.ok x : Except Halt α) (.ok y) :=
  ⟨fun failed => (nomatch failed), carries_ok related⟩

theorem parallel_refuse {during : Option (Activity × Option Mark)} {problem : Problem} {place : Mark} :
    Parallel R (refuse during problem place) second :=
  ⟨fun failed => (nomatch failed), carries_error⟩

theorem Parallel.bind {next : α → Except Halt β} {next' : α' → Except Halt β'} (parallel : Parallel R first second)
    (rest : ∀ x y, R x y → Parallel Q (next x) (next' y)) : Parallel Q (first >>= next) (second >>= next') := by
  obtain ⟨left, carries⟩ := parallel
  cases given : first with
  | error halt =>
    refine ⟨fun failed => left (given.trans ?_), carries_error⟩
    cases failed
    rfl
  | ok x =>
    obtain ⟨y, given', related⟩ := carries x given
    rw [given']
    exact rest x y related

end Parallel

theorem Sees.beq (sees : Sees inner token token') (inside : word.isBorder = false) :
    (token'.word == word) = (token.word == word) := by
  cases sees with
  | border whole part =>
    have other {token : Token} (border : token.word.isBorder = true) : (token.word == word) = false := by
      rw [beq_eq_false_iff_ne]
      rintro rfl
      simp [inside] at border
    rw [other whole, other part]
  | word same => rw [same]

theorem Sees.contains (sees : Sees inner token token') {stops : List Word}
    (inside : ∀ word ∈ stops, word.isBorder = false) :
    stops.contains token'.word = stops.contains token.word := by
  induction stops with
  | nil => rfl
  | cons stop stops ih =>
    obtain ⟨here, there⟩ := List.forall_mem_cons.mp inside
    rw [List.contains_cons, List.contains_cons, sees.beq here, ih there]

/-- Where the next token is a certain one and no mark, its word is next. -/
theorem Sees.of_beq (sees : Sees inner token token') (inside : word.isBorder = false)
    (here : (token.word == word) = true) :
    ∃ rest, inner = word :: rest := by
  have here : token.word = word := by simpa using here
  cases sees with
  | border whole part =>
    rw [here, inside] at whole
    cases whole
  | word same => exact ⟨_, by rw [here]⟩

theorem Sees.bordersDocument (sees : Sees inner token token') : bordersDocument token' = bordersDocument token := by
  rw [bordersDocument_eq, bordersDocument_eq]
  cases sees with
  | border whole part => rw [whole, part]
  | word same => rw [same]

namespace Twin

theorem peek (twin : Twin later later' n k inner g g') :
    ∃ token token', g.peek = .ok token ∧ g'.peek = .ok token' ∧ Sees inner token token' := by
  obtain ⟨tokens, whole, words⟩ := twin.whole
  obtain ⟨tokens', part, words'⟩ := twin.part
  obtain ⟨⟨border, rest, rfl, marked⟩, ⟨border', rest', rfl, marked'⟩⟩ := twin.marks
  unfold Grammar.peek
  rw [whole, part]
  cases inner with
  | nil =>
    rw [List.map_eq_nil_iff.mp words, List.map_eq_nil_iff.mp words']
    exact ⟨border, border', rfl, rfl, .border marked marked'⟩
  | cons word inner =>
    obtain ⟨token, tokens, rfl, here, _⟩ := List.map_eq_cons_iff.mp words
    obtain ⟨token', tokens', rfl, here', _⟩ := List.map_eq_cons_iff.mp words'
    subst here
    exact ⟨token, token', rfl, rfl, .word here'⟩

/-- Other starts of the open collections change nothing. -/
theorem opening (twin : Twin later later' n k inner g g') (opened opened' : List Mark) :
    Twin later later' n k inner { g with opened } { g' with opened := opened' } :=
  { twin with }

/-- Past a token, which may open or close a bracket. -/
theorem drop (twin : Twin later later' n k (word :: inner) g g') (moves : ∀ m, word.levelBehind (m + k) = m + k') :
    Twin later later' n k' inner g.drop g'.drop := by
  have past {g : Grammar} {later : List Token} (stands : g.Stands later (word :: inner)) : g.drop.Stands later inner := by
    obtain ⟨tokens, here, words⟩ := stands
    obtain ⟨token, tokens, rfl, _, rest⟩ := List.map_eq_cons_iff.mp words
    exact ⟨tokens, by simp [Grammar.drop, here], rest⟩
  refine { twin with whole := past twin.whole, part := past twin.part, clear := ?_, level := ?_ }
  · exact fun word member => twin.clear word (List.mem_cons_of_mem _ member)
  · rw [← twin.level, levelFrom, levelFrom, List.foldl_cons, moves]
    rfl

theorem openAt (twin : Twin later later' n k (word :: inner) g g') (moves : ∀ m, word.levelBehind (m + k) = m + k')
    (place place' : Mark) : Twin later later' n k' inner (g.openAt place) (g'.openAt place') :=
  (twin.drop moves).opening _ _

theorem close (twin : Twin later later' n k (word :: inner) g g') (moves : ∀ m, word.levelBehind (m + k) = m + k') :
    Twin later later' n k' inner g.close g'.close :=
  (twin.drop moves).opening _ _

/-- Past a token for a node without parts, or for a property of a node. -/
theorem dropAlone (twin : Twin later later' n k (word :: inner) g g') (alone : word.isAlone = true) :
    Twin later later' n k inner g.drop g'.drop :=
  twin.drop fun m => (Word.alone alone).2 (m + k)

theorem expect (twin : Twin later later' n next.depth inner g g') (settled : next.isSettled = true) :
    Twin later later' n 0 inner (g.expect next) (g'.expect next) := by
  obtain ⟨nodes, here, others⟩ := twin.settled
  refine { twin with level := ?_, settled := ⟨next :: nodes, ?_, List.forall_mem_cons.mpr ⟨settled, others⟩⟩, expected := ?_ }
  · rw [← twin.level]
    congr 1
    simp only [Grammar.expect, List.map_cons, List.sum_cons]
    omega
  · simp [Grammar.expect, here]
  · simp [Grammar.expect, twin.expected]

/-- The same happens and nothing more is expected than before. -/
theorem agree (twin : Twin later later' n 0 inner g g') (same : e'.what = e.what) (node : e.what.isNode = true) :
    Agree later later' n (e, g) (e', g') :=
  ⟨same, node, .settled twin⟩

/-- The same happens, and what is expected next does not depend on the next token. -/
theorem agree_expect (twin : Twin later later' n next.depth inner g g') (same : e'.what = e.what)
    (node : e.what.isNode = true) (settled : next.isSettled = true) :
    Agree later later' n (e, g.expect next) (e', g'.expect next) :=
  (twin.expect settled).agree same node

/-- The same happens, and a collection is expected that the next token starts. -/
theorem agree_begins (twin : Twin later later' n next.depth (word :: inner) g g') (same : e'.what = e.what)
    (node : e.what.isNode = true) (starts : next.indicator? = some word) :
    Agree later later' n (e, g.expect next) (e', g'.expect next) :=
  ⟨same, node, .begins starts twin⟩

end Twin

section Nodes

/-- Whether two nodes have the same properties, wherever they stand. -/
def Properties.Same (p p' : Properties) : Prop := p'.anchor = p.anchor ∧ p'.tag = p.tag

theorem readProperties_of_border (next : g.peek = .ok token) (border : token.word.isBorder = true) :
    g.readProperties = .ok ({}, g) := by
  unfold readProperties
  rw [next]
  rcases Word.border_cases border with ⟨d, word⟩ | word | word | word <;> simp [word, bind, Except.bind, pure, Except.pure]

theorem readContent_of_border (block indentless : Bool) (p : Properties) (given : Option String) (place : Mark)
    (next : g.peek = .ok token) (border : token.word.isBorder = true) :
    g.readContent block indentless p given place = readNoContent block p given place token g := by
  unfold readContent
  rw [next]
  rcases Word.border_cases border with ⟨d, word⟩ | word | word | word <;> simp [word, bind, Except.bind]

theorem Twin.readProperties (twin : Twin later later' n k inner g g') :
    Parallel (fun r r' => r.1.Same r'.1 ∧ ∃ inner', Twin later later' n k inner' r.2 r'.2)
      g.readProperties g'.readProperties := by
  obtain ⟨first, first', next, next', sees⟩ := twin.peek
  cases sees with
  | border whole part =>
    rw [readProperties_of_border next whole, readProperties_of_border next' part]
    exact parallel_ok ⟨⟨rfl, rfl⟩, _, twin⟩
  | word same =>
    unfold Grammar.readProperties
    rw [next, next']
    dsimp only [bind, Except.bind]
    rw [same]
    split
    case h_3 => exact parallel_ok ⟨⟨rfl, rfl⟩, _, twin⟩
    -- an anchor that a tag may follow, and a tag that an anchor may follow
    all_goals
      rename_i word
      have past := twin.dropAlone (word ▸ rfl)
      obtain ⟨second, second', next, next', sees⟩ := past.peek
      rw [next, next']
      dsimp only
      cases sees with
      | border whole part =>
        rcases Word.border_cases whole with ⟨d, word⟩ | word | word | word <;>
          rcases Word.border_cases part with ⟨d', word'⟩ | word' | word' | word' <;> rw [word, word'] <;>
          exact parallel_ok ⟨⟨rfl, rfl⟩, _, past⟩
      | word same =>
        rw [same]
        split
        · rename_i word
          exact parallel_ok ⟨⟨rfl, rfl⟩, _, past.dropAlone (word ▸ rfl)⟩
        · exact parallel_ok ⟨⟨rfl, rfl⟩, _, past⟩

variable {p p' : Properties} {given : Option String} {place place' : Mark}

theorem Twin.resolveTag (twin : Twin later later' n k inner g g') (same : p.Same p') :
    Parallel Eq (g.resolveTag p place) (g'.resolveTag p' place') := by
  unfold Grammar.resolveTag
  rw [same.2, twin.handles]
  split
  · exact parallel_ok rfl
  · exact parallel_ok rfl
  · split
    · exact parallel_ok rfl
    · exact parallel_refuse

theorem Twin.readNoContent (twin : Twin later later' n 0 inner g g') (same : p.Same p') (block : Bool) :
    Parallel (Agree later later' n) (readNoContent block p given place token g)
      (readNoContent block p' given place' token' g') := by
  unfold Grammar.readNoContent
  rw [same.1]
  split
  · exact parallel_ok (twin.agree rfl rfl)
  · exact parallel_refuse

theorem Twin.readContent (twin : Twin later later' n 0 inner g g') (same : p.Same p') (block indentless : Bool) :
    Parallel (Agree later later' n) (g.readContent block indentless p given place)
      (g'.readContent block indentless p' given place') := by
  obtain ⟨first, first', next, next', sees⟩ := twin.peek
  cases sees with
  | border whole part =>
    rw [readContent_of_border block indentless p given place next whole,
      readContent_of_border block indentless p' given place' next' part]
    exact twin.readNoContent same block
  | word alike =>
    unfold Grammar.readContent
    rw [next, next', same.1]
    dsimp only [bind, Except.bind]
    rw [alike]
    split
    · rename_i word
      exact parallel_ok ((twin.dropAlone (word ▸ rfl)).agree rfl rfl)
    · rename_i word
      exact parallel_ok (agree_begins (word ▸ twin) rfl rfl rfl)
    · rename_i word
      exact parallel_ok (agree_begins (word ▸ twin) rfl rfl rfl)
    · split
      · exact parallel_ok (twin.agree_expect rfl rfl rfl)
      · exact twin.readNoContent same block
    · rename_i word
      split
      · exact parallel_ok (agree_begins (word ▸ twin) rfl rfl rfl)
      · exact twin.readNoContent same block
    · rename_i word
      split
      · exact parallel_ok (agree_begins (word ▸ twin) rfl rfl rfl)
      · exact twin.readNoContent same block
    · exact twin.readNoContent same block

theorem Twin.readNode (twin : Twin later later' n 0 inner g g') (block indentless : Bool) :
    Parallel (Agree later later' n) (g.readNode block indentless) (g'.readNode block indentless) := by
  obtain ⟨first, first', next, next', sees⟩ := twin.peek
  have node : Parallel (Agree later later' n)
      (g.readProperties >>= fun r => do
        let given ← r.2.resolveTag r.1 first.start
        r.2.readContent block indentless r.1 given (r.1.start.getD first.start))
      (g'.readProperties >>= fun r => do
        let given ← r.2.resolveTag r.1 first'.start
        r.2.readContent block indentless r.1 given (r.1.start.getD first'.start)) := by
    refine twin.readProperties.bind fun r r' read => ?_
    obtain ⟨same, inner', past⟩ := read
    refine (past.resolveTag same).bind fun given given' known => ?_
    subst known
    exact past.readContent same block indentless
  unfold Grammar.readNode
  rw [next, next']
  cases sees with
  | border whole part =>
    rcases Word.border_cases whole with ⟨d, word⟩ | word | word | word <;>
      rcases Word.border_cases part with ⟨d', word'⟩ | word' | word' | word' <;> dsimp only [bind, Except.bind] <;>
      rw [word, word'] <;> exact node
  | word same =>
    dsimp only [bind, Except.bind]
    rw [same]
    split
    · rename_i word
      exact parallel_ok ((twin.dropAlone (word ▸ rfl)).agree rfl rfl)
    · exact node

theorem Twin.nodeUnless {stops : List Word} (inside : ∀ word ∈ stops, word.isBorder = false) (block indentless : Bool)
    {after : Expected} (settled : after.isSettled = true) (twin : Twin later later' n after.depth (word :: inner) g g')
    (neutral : ∀ m, word.levelBehind m = m) :
    Parallel (Agree later later' n) (g.nodeUnless stops block indentless after token)
      (g'.nodeUnless stops block indentless after token') := by
  have past := twin.drop fun m => neutral (m + after.depth)
  obtain ⟨next, next', here, here', sees⟩ := past.peek
  unfold Grammar.nodeUnless
  dsimp only
  rw [here, here']
  dsimp only [bind, Except.bind]
  rw [sees.contains inside]
  split
  · exact parallel_ok (past.agree_expect rfl rfl settled)
  · exact (past.expect settled).readNode block indentless

theorem Twin.valueUnless {stops : List Word} (inside : ∀ word ∈ stops, word.isBorder = false) (block : Bool)
    {after : Expected} (settled : after.isSettled = true) (twin : Twin later later' n after.depth inner g g') :
    Parallel (Agree later later' n) (g.valueUnless stops block after) (g'.valueUnless stops block after) := by
  obtain ⟨next, next', here, here', sees⟩ := twin.peek
  unfold Grammar.valueUnless
  rw [here, here']
  dsimp only [bind, Except.bind]
  rw [sees.beq rfl]
  split
  · rename_i value
    obtain ⟨rest, rfl⟩ := sees.of_beq rfl value
    exact twin.nodeUnless inside block block settled fun _ => rfl
  · exact parallel_ok (twin.agree_expect rfl rfl settled)

end Nodes

section Collections

theorem Twin.blockSequenceEntry (twin : Twin later later' n 0 inner g g') :
    Parallel (Agree later later' n) g.blockSequenceEntry g'.blockSequenceEntry := by
  obtain ⟨next, next', here, here', sees⟩ := twin.peek
  unfold Grammar.blockSequenceEntry
  rw [here, here']
  dsimp only [bind, Except.bind]
  rw [sees.beq rfl, sees.beq rfl]
  split
  · rename_i entry
    obtain ⟨rest, rfl⟩ := sees.of_beq rfl entry
    exact twin.nodeUnless (by decide) true false rfl fun _ => rfl
  · split
    · rename_i last
      obtain ⟨rest, rfl⟩ := sees.of_beq rfl last
      exact parallel_ok ((twin.close fun _ => rfl).agree rfl rfl)
    · exact parallel_refuse

theorem Twin.plainSequenceEntry (twin : Twin later later' n 0 inner g g') :
    Parallel (Agree later later' n) g.plainSequenceEntry g'.plainSequenceEntry := by
  obtain ⟨next, next', here, here', sees⟩ := twin.peek
  unfold Grammar.plainSequenceEntry
  rw [here, here']
  dsimp only [bind, Except.bind]
  rw [sees.beq rfl]
  split
  · rename_i entry
    obtain ⟨rest, rfl⟩ := sees.of_beq rfl entry
    exact twin.nodeUnless (by decide) true false rfl fun _ => rfl
  · exact parallel_ok (twin.agree rfl rfl)

theorem Twin.blockMappingKey (twin : Twin later later' n 0 inner g g') :
    Parallel (Agree later later' n) g.blockMappingKey g'.blockMappingKey := by
  obtain ⟨next, next', here, here', sees⟩ := twin.peek
  unfold Grammar.blockMappingKey
  rw [here, here']
  dsimp only [bind, Except.bind]
  rw [sees.beq rfl, sees.beq rfl]
  split
  · rename_i key
    obtain ⟨rest, rfl⟩ := sees.of_beq rfl key
    exact twin.nodeUnless (by decide) true true rfl fun _ => rfl
  · split
    · rename_i last
      obtain ⟨rest, rfl⟩ := sees.of_beq rfl last
      exact parallel_ok ((twin.close fun _ => rfl).agree rfl rfl)
    · exact parallel_refuse

theorem Twin.flowSequenceItem (twin : Twin later later' n 1 inner g g') :
    Parallel (Agree later later' n) g.flowSequenceItem g'.flowSequenceItem := by
  obtain ⟨next, next', here, here', sees⟩ := twin.peek
  unfold Grammar.flowSequenceItem
  rw [here, here']
  dsimp only [bind, Except.bind]
  rw [sees.beq rfl, sees.beq rfl]
  split
  · rename_i last
    obtain ⟨rest, rfl⟩ := sees.of_beq rfl last
    exact parallel_ok ((twin.close fun _ => rfl).agree rfl rfl)
  · split
    · rename_i key
      obtain ⟨rest, rfl⟩ := sees.of_beq rfl key
      exact parallel_ok (twin.agree_begins rfl rfl rfl)
    · exact Twin.readNode (twin.expect rfl) false false

theorem Twin.flowSequenceEntry (twin : Twin later later' n 1 inner g g') :
    Parallel (Agree later later' n) g.flowSequenceEntry g'.flowSequenceEntry := by
  obtain ⟨next, next', here, here', sees⟩ := twin.peek
  unfold Grammar.flowSequenceEntry
  rw [here, here']
  dsimp only [bind, Except.bind]
  rw [sees.beq rfl, sees.beq rfl]
  split
  · rename_i last
    obtain ⟨rest, rfl⟩ := sees.of_beq rfl last
    exact parallel_ok ((twin.close fun _ => rfl).agree rfl rfl)
  · split
    · rename_i comma
      obtain ⟨rest, rfl⟩ := sees.of_beq rfl comma
      exact (twin.drop fun _ => rfl).flowSequenceItem
    · exact parallel_refuse

theorem Twin.flowMappingItem (twin : Twin later later' n 1 inner g g') :
    Parallel (Agree later later' n) g.flowMappingItem g'.flowMappingItem := by
  obtain ⟨next, next', here, here', sees⟩ := twin.peek
  unfold Grammar.flowMappingItem
  rw [here, here']
  dsimp only [bind, Except.bind]
  rw [sees.beq rfl, sees.beq rfl]
  split
  · rename_i last
    obtain ⟨rest, rfl⟩ := sees.of_beq rfl last
    exact parallel_ok ((twin.close fun _ => rfl).agree rfl rfl)
  · split
    · rename_i key
      obtain ⟨rest, rfl⟩ := sees.of_beq rfl key
      exact twin.nodeUnless (by decide) false false rfl fun _ => rfl
    · exact Twin.readNode (twin.expect rfl) false false

theorem Twin.flowMappingKey (twin : Twin later later' n 1 inner g g') :
    Parallel (Agree later later' n) g.flowMappingKey g'.flowMappingKey := by
  obtain ⟨next, next', here, here', sees⟩ := twin.peek
  unfold Grammar.flowMappingKey
  rw [here, here']
  dsimp only [bind, Except.bind]
  rw [sees.beq rfl, sees.beq rfl]
  split
  · rename_i last
    obtain ⟨rest, rfl⟩ := sees.of_beq rfl last
    exact parallel_ok ((twin.close fun _ => rfl).agree rfl rfl)
  · split
    · rename_i comma
      obtain ⟨rest, rfl⟩ := sees.of_beq rfl comma
      exact (twin.drop fun _ => rfl).flowMappingItem
    · exact parallel_refuse

theorem Twin.documentContent (twin : Twin later later' n 0 inner g g') :
    Parallel (Agree later later' n) g.documentContent g'.documentContent := by
  obtain ⟨next, next', here, here', sees⟩ := twin.peek
  unfold Grammar.documentContent
  rw [here, here']
  dsimp only [bind, Except.bind]
  rw [sees.bordersDocument]
  split
  · exact parallel_ok (twin.agree rfl rfl)
  · exact twin.readNode true false

end Collections

/-- What is expected next of two grammars at the same point, and where they are without it. -/
theorem Pair.exists_next (pair : Pair later later' n g g') (goesOn : g.expected ≠ [.documentEnd]) :
    ∃ next rest inner, g.expected = next :: rest ∧ g'.expected = next :: rest ∧
      Twin later later' n next.depth inner { g with expected := rest } { g' with expected := rest } ∧
      (next.isSettled = true ∨ ∃ word inner', next.indicator? = some word ∧ inner = word :: inner') := by
  cases pair with
  | @settled inner _ _ twin =>
    obtain ⟨nodes, expected, settled⟩ := twin.settled
    cases nodes with
    | nil => exact absurd expected goesOn
    | cons next nodes =>
      obtain ⟨here, there⟩ := List.forall_mem_cons.mp settled
      rw [List.cons_append] at expected
      refine ⟨next, nodes ++ [.documentEnd], inner, expected, twin.expected.trans expected, ?_, .inl here⟩
      refine { twin with level := ?_, settled := ⟨nodes, rfl, there⟩, expected := rfl }
      rw [← twin.level, expected]
      simp [Nat.add_comm]
  | @begins next word inner g g' starts twin =>
    have expected := twin.expected
    refine ⟨next, g.expected, word :: inner, rfl, ?_, ?_, .inr ⟨word, inner, starts, rfl⟩⟩
    · simp [Grammar.expect, expected]
    · exact { twin with expected := rfl }

/-- In a document two grammars at the same point make the same step. -/
theorem Pair.step (pair : Pair later later' n g g') (goesOn : g.expected ≠ [.documentEnd]) :
    Parallel (Agree later later' n) g.step g'.step := by
  obtain ⟨next, rest, inner, expected, expected', twin, starts⟩ := pair.exists_next goesOn
  unfold Grammar.step
  rw [expected, expected']
  dsimp only
  generalize ({ g with expected := rest } : Grammar) = h at twin ⊢
  generalize ({ g' with expected := rest } : Grammar) = h' at twin ⊢
  obtain ⟨token, token', here, here', sees⟩ := twin.peek
  rw [here, here']
  dsimp only [bind, Except.bind]
  cases next with
  | streamStart => simp [Expected.isSettled, Expected.indicator?] at starts
  | firstDocument => simp [Expected.isSettled, Expected.indicator?] at starts
  | document => simp [Expected.isSettled, Expected.indicator?] at starts
  | documentEnd => simp [Expected.isSettled, Expected.indicator?] at starts
  | documentContent => exact twin.documentContent
  | blockNode => exact twin.readNode true false
  | blockSequenceStart =>
    obtain ⟨word, inner, ⟨⟩, rfl⟩ := starts.resolve_left (by decide)
    exact (twin.openAt (fun _ => rfl) token.start token'.start).blockSequenceEntry
  | blockSequenceEntry => exact twin.blockSequenceEntry
  | plainSequenceEntry => exact twin.plainSequenceEntry
  | blockMappingStart =>
    obtain ⟨word, inner, ⟨⟩, rfl⟩ := starts.resolve_left (by decide)
    exact (twin.openAt (fun _ => rfl) token.start token'.start).blockMappingKey
  | blockMappingKey => exact twin.blockMappingKey
  | blockMappingValue => exact Twin.valueUnless (by decide) true rfl twin
  | flowSequenceStart =>
    obtain ⟨word, inner, ⟨⟩, rfl⟩ := starts.resolve_left (by decide)
    exact (twin.openAt (fun _ => rfl) token.start token'.start).flowSequenceItem
  | flowSequenceEntry => exact twin.flowSequenceEntry
  | flowPairKey =>
    obtain ⟨word, inner, ⟨⟩, rfl⟩ := starts.resolve_left (by decide)
    exact Twin.nodeUnless (by decide) false false rfl twin fun _ => rfl
  | flowPairValue => exact Twin.valueUnless (by decide) false rfl twin
  | flowPairEnd => exact parallel_ok (Twin.agree_expect twin rfl rfl rfl)
  | flowMappingStart =>
    obtain ⟨word, inner, ⟨⟩, rfl⟩ := starts.resolve_left (by decide)
    exact (twin.openAt (fun _ => rfl) token.start token'.start).flowMappingItem
  | flowMappingKey => exact twin.flowMappingKey
  | flowMappingValue => exact Twin.valueUnless (by decide) false rfl twin
  | flowMappingNoValue => exact parallel_ok (Twin.agree_expect twin rfl rfl rfl)

end Grammar

end AccessPolicy.Yaml
