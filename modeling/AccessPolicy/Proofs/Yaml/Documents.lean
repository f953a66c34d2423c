import AccessPolicy.Proofs.Yaml.Twins

namespace AccessPolicy.Yaml.Grammar

variable {later later' rest : List Token} {n : Nat} {g g' : Grammar} {token : Token} {event : Event} {events : List Event}

theorem Makes.of_step (makes : Makes g events) (step : g.step = .ok (event, g')) :
    ∃ events', events = event :: events' ∧ Makes g' events' := by
  cases makes with
  | ended nothing => simp [step] at nothing
  | more next rest =>
    rw [step] at next
    cases next
    exact ⟨_, rfl, rest⟩

theorem not_makes_of_fault {failure : Failure} (failed : g.step = .error (.fault failure)) : ¬ Makes g events := by
  intro makes
  cases makes with
  | ended nothing => simp [failed] at nothing
  | more next _ => simp [failed] at next

theorem step_documentEnd (expected : g.expected = [.documentEnd]) (tokens : g.tokens = token :: rest) :
    g.step = .ok (⟨.documentEnd, token.start⟩,
      { g with tokens := if endsDocument token then rest else token :: rest, expected := [.document] }) := by
  unfold step
  rw [expected]
  unfold documentEnd peek
  rw [tokens]
  dsimp only [bind, Except.bind, pure, Except.pure]
  split <;> simp [expect, drop]

/-- No document starts with what is no mark, once there has been one. -/
theorem not_makes_of_inside (expected : g.expected = [.document]) (tokens : g.tokens = token :: rest)
    (inside : token.word.isBorder = false) : ¬ Makes g events := by
  have other {word : Word} (border : word.isBorder = true) : token.word ≠ word := by
    rintro rfl
    simp [inside] at border
  have read : readDirectives false [] (token :: rest) = .ok ([], token :: rest) := by
    unfold readDirectives
    split <;> first | rfl | exact absurd ‹token.word = _› (other rfl)
  have noEnd : token.word ≠ .documentEnd := other rfl
  have noStart : token.word ≠ .documentStart := other rfl
  have noLast : token.word ≠ .streamEnd := other rfl
  have kept : (token :: rest).dropWhile endsDocument = token :: rest := by simp [endsDocument, noEnd]
  have failed : ∃ failure, g.step = .error (.fault failure) := by
    unfold step
    rw [expected]
    unfold readDocument peek
    simp only [tokens, kept, read, bind, Except.bind]
    simp [noLast, noStart, refuse]
  exact failed.elim fun failure failed => not_makes_of_fault failed

/-- What comes behind a document that is ended by a mark. -/
theorem Makes.documentEnd (makes : Makes g events) (expected : g.expected = [.documentEnd])
    (tokens : g.tokens = token :: rest)
    (ends : token.word = .documentEnd) :
    ∃ events', events = ⟨.documentEnd, token.start⟩ :: events' ∧
      Makes { g with tokens := rest, expected := [.document] } events' := by
  have step := step_documentEnd expected tokens
  rw [endsDocument, ends] at step
  exact makes.of_step step

/-- What comes behind a document that ends without a mark. -/
theorem Makes.documentEnd_unmarked (makes : Makes g events) (expected : g.expected = [.documentEnd])
    (tokens : g.tokens = token :: rest) (other : token.word ≠ .documentEnd) :
    ∃ events', events = ⟨.documentEnd, token.start⟩ :: events' ∧
      Makes { g with tokens := token :: rest, expected := [.document] } events' := by
  have step := step_documentEnd expected tokens
  rw [endsDocument, beq_eq_false_iff_ne.mpr other] at step
  exact makes.of_step step

/-- No document follows what is no mark, once there has been one. -/
theorem Makes.mark_behind (expected : g.expected = [.documentEnd]) (tokens : g.tokens = token :: rest)
    (makes : Makes g events) : token.word.isBorder = true := by
  by_contra inside
  rw [Bool.not_eq_true] at inside
  have other : token.word ≠ .documentEnd := by
    intro same
    simp [same, Word.isBorder, bordersDocument] at inside
  obtain ⟨events', _, makes'⟩ := makes.documentEnd_unmarked expected tokens other
  exact not_makes_of_inside rfl rfl inside makes'

/-- Two documents are read to the marks behind them: the first with these events, and then with others from there on,
and the second with events of the same nodes. -/
structure IsReadTo (later later' : List Token) (g g' : Grammar) (events inner inner' rest : List Event) (h h' : Grammar) :
    Prop where
  events : events = inner ++ rest
  nodes : ∀ event ∈ inner, event.what.isNode = true
  same : inner'.map (·.what) = inner.map (·.what)
  whole : h.tokens = later ∧ h.expected = [.documentEnd]
  part : h'.tokens = later' ∧ h'.expected = [.documentEnd]
  rest : Makes h rest
  makes : ∀ rest', Makes h' rest' → Makes g' (inner' ++ rest')

theorem Pair.of_documentEnd (pair : Pair later later' n g g') (makes : Makes g events)
    (expected : g.expected = [.documentEnd]) :
    n = 0 ∧ IsReadTo later later' g g' events [] [] events g g' := by
  cases pair with
  | begins starts twin =>
    obtain ⟨nodes, others, _⟩ := twin.settled
    simp [expect, others] at expected
  | @settled inner _ _ twin =>
    obtain ⟨words, whole, same⟩ := twin.whole
    obtain ⟨words', part, same'⟩ := twin.part
    cases inner with
    | nil =>
      obtain rfl := List.map_eq_nil_iff.mp same
      obtain rfl := List.map_eq_nil_iff.mp same'
      have level := twin.level
      rw [expected] at level
      exact ⟨level.symm, rfl, by simp, rfl, ⟨whole, expected⟩,
        ⟨part, twin.expected.trans expected⟩, makes, fun _ makes => makes⟩
    | cons word inner =>
      obtain ⟨token, words, rfl, here, _⟩ := List.map_eq_cons_iff.mp same
      have inside := twin.clear word List.mem_cons_self
      rw [← here, makes.mark_behind expected whole] at inside
      cases inside

/-- A document that is read to its end has been read up to the next mark, with all brackets closed. Any other with the
same words is read to its end as well. -/
theorem Pair.exists_isReadTo (pair : Pair later later' n g g') (makes : Makes g events) :
    n = 0 ∧ ∃ inner inner' rest h h', IsReadTo later later' g g' events inner inner' rest h h' := by
  -- along the events of the whole, up to where the end of the document is expected
  induction makes generalizing g' with
  | @ended g nothing =>
    by_cases expected : g.expected = [.documentEnd]
    · exact (pair.of_documentEnd (.ended nothing) expected).imp_right fun read => ⟨_, _, _, _, _, read⟩
    · exact absurd nothing (pair.step expected).1
  | @more g g₁ event events next makes ih =>
    by_cases expected : g.expected = [.documentEnd]
    · exact (pair.of_documentEnd (.more next makes) expected).imp_right fun read => ⟨_, _, _, _, _, read⟩
    · obtain ⟨⟨event', g₁'⟩, next', agree⟩ := (pair.step expected).2 _ next
      obtain ⟨closed, inner, inner', rest, h, h', read⟩ := ih agree.pair
      refine ⟨closed, event :: inner, event' :: inner', rest, h, h', ?_⟩
      refine { read with
        events := by rw [read.events, List.cons_append]
        nodes := List.forall_mem_cons.mpr ⟨agree.node, read.nodes⟩
        same := ?_
        makes := fun rest' makes' => .more next' (read.makes rest' makes') }
      rw [List.map_cons, List.map_cons, read.same]
      exact congrArg (· :: _) agree.same

/-- Where a document is expected. -/
def IsInside (g : Grammar) : Prop :=
  g.expected = [.documentContent, .documentEnd] ∨ g.expected = [.blockNode, .documentEnd]

/-- Two documents of the same words up to the next mark are at the same point. -/
theorem IsInside.pair {inner inner' : List Token} (inside : g.IsInside) (tokens : g.tokens = inner ++ later)
    (tokens' : g'.tokens = inner' ++ later') (words : inner'.map (·.word) = inner.map (·.word))
    (clear : ∀ token ∈ inner, token.word.isBorder = false) (marked : StartsAtBorder later)
    (marked' : StartsAtBorder later')
    (expected : g'.expected = g.expected) (handles : g'.handles = g.handles) :
    Pair later later' (level inner.reverse) g g' := by
  suffices twin : Twin later later' (level inner.reverse) 0 (inner.map (·.word)) g g' from .settled twin
  refine ⟨⟨inner, tokens, rfl⟩, ⟨inner', tokens', words⟩, ⟨marked, marked'⟩, ?_, ?_, ?_, expected, handles⟩
  · intro word member
    obtain ⟨token, there, rfl⟩ := List.mem_map.mp member
    exact clear token there
  · rw [level_reverse]
    rcases inside with expected | expected <;> rw [expected] <;> rfl
  · rcases inside with expected | expected
    · exact ⟨[.documentContent], expected, by simp [Expected.isSettled, Expected.indicator?]⟩
    · exact ⟨[.blockNode], expected, by simp [Expected.isSettled, Expected.indicator?]⟩

/-- A document that is read to its end is read up to the next mark, where no bracket is open. -/
theorem Makes.exists_behind {inner : List Token} (makes : Makes g events) (inside : g.IsInside)
    (tokens : g.tokens = inner ++ later)
    (clear : ∀ token ∈ inner, token.word.isBorder = false) (marked : StartsAtBorder later) :
    level inner.reverse = 0 ∧ ∃ h rest, h.tokens = later ∧ h.expected = [.documentEnd] ∧ Makes h rest := by
  obtain ⟨closed, _, _, rest, h, _, read⟩ :=
    (inside.pair tokens tokens rfl clear marked marked rfl rfl).exists_isReadTo makes
  exact ⟨closed, h, rest, read.whole.1, read.whole.2, read.rest⟩

/-- At the first mark behind a document that is read to its end no bracket is open. -/
theorem Makes.closed (makes : Makes g events) (inside : g.IsInside) (borders : BordersAt n g.tokens.reverse) : n = 0 := by
  obtain ⟨behind, border, before, split, marked, clear, opened⟩ := borders
  have tokens : g.tokens = before.reverse ++ border :: behind.reverse := by simpa using congrArg List.reverse split
  obtain ⟨closed, _⟩ := makes.exists_behind inside tokens (fun token member => clear token (List.mem_reverse.mp member))
    ⟨border, _, rfl, marked⟩
  rw [List.reverse_reverse] at closed
  rw [← opened, closed]

/-- Whether a token is no directive. -/
def EndsDirectives (token : Token) : Prop := ∀ d, token.word ≠ .directive d

section Starting

variable {ds ds' rest' : List Token} {token' : Token}

/-- The directives of a document say the same as others with the same words. -/
theorem parallel_readDirectives (directives : ∀ token ∈ ds, ∃ d, token.word = .directive d)
    (words : ds'.map (·.word) = ds.map (·.word)) (behind : EndsDirectives token) (behind' : EndsDirectives token')
    (versioned : Bool) (handles : List (String × String)) :
    Parallel (fun r r' => r'.1 = r.1 ∧ r.2 = token :: rest ∧ r'.2 = token' :: rest')
      (readDirectives versioned handles (ds ++ token :: rest)) (readDirectives versioned handles (ds' ++ token' :: rest')) := by
  induction ds generalizing ds' versioned handles with
  | nil =>
    have ended {token : Token} {rest : List Token} (behind : EndsDirectives token) :
        readDirectives versioned handles (token :: rest) = .ok (handles, token :: rest) := by
      unfold readDirectives
      split
      · exact absurd ‹_› (behind _)
      · exact absurd ‹_› (behind _)
      · exact absurd ‹_› (behind _)
      · rfl
    obtain rfl := List.map_eq_nil_iff.mp words
    rw [List.nil_append, List.nil_append, ended behind, ended behind']
    exact parallel_ok ⟨rfl, rfl, rfl⟩
  | cons first ds ih =>
    obtain ⟨first', ds', rfl, same, words⟩ := List.map_eq_cons_iff.mp words
    obtain ⟨⟨d, here⟩, directives⟩ := List.forall_mem_cons.mp directives
    have here' : first'.word = .directive d := same.trans here
    rw [List.cons_append, List.cons_append, readDirectives, readDirectives, here, here']
    cases d with
    | version major minor =>
      dsimp only
      split
      · exact parallel_refuse
      · split
        · exact parallel_refuse
        · exact ih directives words true handles
    | handle name expansion =>
      dsimp only
      split
      · exact parallel_refuse
      · exact ih directives words versioned _
    | other => exact ih directives words versioned handles

/-- The mark that has to follow the directives of a document. -/
def openDocument (place : Mark) (g : Grammar) : Except Halt (Event × Grammar) := do
  let token ← g.peek
  if token.word == .documentStart then
    return (⟨.documentStart, place⟩, (g.drop.expect .documentEnd).expect .documentContent)
  else refuse none (.expectedDocument token.word.name) token.start

/-- What starts with neither the end of a document nor that of the text is read as directives and a mark. -/
theorem readDocument_eq (tokens : g.tokens = token :: rest) (noEnd : token.word ≠ .documentEnd)
    (noLast : token.word ≠ .streamEnd) :
    g.readDocument = readDirectives false [] (token :: rest) >>= fun (handles, tokens) =>
      openDocument token.start { g with tokens, handles := handles ++ commonHandles } := by
  have kept : (token :: rest).dropWhile endsDocument = token :: rest := by simp [endsDocument, noEnd]
  have peeked : peek { g with tokens := token :: rest } = .ok token := rfl
  unfold readDocument
  rw [tokens, kept]
  dsimp only
  rw [peeked]
  dsimp only [bind, Except.bind]
  rw [beq_eq_false_iff_ne.mpr noLast]
  rfl

/-- What a document starts with is read as directives and a mark, whether or not it is the first. -/
theorem step_eq_of_first (either : g.expected = [.firstDocument] ∨ g.expected = [.document])
    (tokens : g.tokens = token :: rest)
    (marked : token.word.isBorder = true) (noEnd : token.word ≠ .documentEnd) :
    g.step = readDocument { g with expected := [] } := by
  have peeked : peek { g with expected := [] } = .ok token := by
    unfold peek
    rw [tokens]
  unfold step
  rcases either with expected | expected
  · rw [expected]
    dsimp only
    rw [peeked]
    dsimp only [bind, Except.bind]
    unfold firstDocument
    rw [peeked]
    dsimp only [bind, Except.bind]
    rw [bordersDocument_eq, marked]
    simp [endsDocument, noEnd]
  · rw [expected]
    dsimp only
    rw [peeked]
    rfl

/-- Directives and a token behind them start with a token that is neither the end of a document nor that of the text. -/
theorem exists_first (rest : List Token) (directives : ∀ token ∈ ds, ∃ d, token.word = .directive d)
    (some : ds ≠ [] ∨ token.word = .documentStart) :
    ∃ first later, ds ++ token :: rest = first :: later ∧ first.word.isBorder = true ∧ first.word ≠ .documentEnd ∧
      first.word ≠ .streamEnd := by
  cases ds with
  | nil =>
    have start := some.resolve_left fun none => none rfl
    exact ⟨token, rest, rfl, by rw [start]; rfl, by simp [start], by simp [start]⟩
  | cons first ds =>
    obtain ⟨⟨d, here⟩, _⟩ := List.forall_mem_cons.mp directives
    exact ⟨first, ds ++ token :: rest, rfl, by rw [here]; rfl, by simp [here], by simp [here]⟩

/-- Whether two grammars are behind the marks that open two documents, with the same handles. -/
structure AreOpened (rest rest' : List Token) (r r' : Event × Grammar) : Prop where
  starts : r.1.what = .documentStart ∧ r'.1.what = .documentStart
  whole : r.2.tokens = rest ∧ r.2.expected = [.documentContent, .documentEnd]
  part : r'.2.tokens = rest' ∧ r'.2.expected = [.documentContent, .documentEnd]
  handles : r'.2.handles = r.2.handles

/-- A document with a mark starts in the same way wherever it stands. -/
theorem parallel_marked (either : g.expected = [.firstDocument] ∨ g.expected = [.document])
    (either' : g'.expected = [.firstDocument] ∨ g'.expected = [.document])
    (directives : ∀ token ∈ ds, ∃ d, token.word = .directive d) (words : ds'.map (·.word) = ds.map (·.word))
    (opens : token.word = .documentStart) (opens' : token'.word = .documentStart)
    (tokens : g.tokens = ds ++ token :: rest) (tokens' : g'.tokens = ds' ++ token' :: rest') :
    Parallel (AreOpened rest rest') g.step g'.step := by
  have directives' : ∀ token ∈ ds', ∃ d, token.word = .directive d := by
    intro token member
    obtain ⟨other, there, same⟩ := List.mem_map.mp (words ▸ List.mem_map_of_mem member)
    obtain ⟨d, word⟩ := directives other there
    exact ⟨d, same.symm.trans word⟩
  obtain ⟨first, later, split, marked, noEnd, noLast⟩ := exists_first rest directives (.inr opens)
  obtain ⟨first', later', split', marked', noEnd', noLast'⟩ := exists_first rest' directives' (.inr opens')
  rw [step_eq_of_first either (tokens.trans split) marked noEnd, step_eq_of_first either' (tokens'.trans split') marked' noEnd',
    readDocument_eq (g := { g with expected := [] }) (tokens.trans split) noEnd noLast,
    readDocument_eq (g := { g' with expected := [] }) (tokens'.trans split') noEnd' noLast', ← split, ← split']
  refine (parallel_readDirectives directives words (fun d => by simp [opens]) (fun d => by simp [opens']) false []).bind
    fun (handles, left) (handles', left') ⟨same, whole, part⟩ => ?_
  dsimp only at same whole part ⊢
  subst same whole part
  unfold openDocument peek
  dsimp only [bind, Except.bind]
  rw [opens, opens']
  exact parallel_ok ⟨⟨rfl, rfl⟩, ⟨rfl, rfl⟩, ⟨rfl, rfl⟩, rfl⟩

/-- Directives have to be followed by the mark of a document. -/
theorem not_makes_of_directives (either : g.expected = [.firstDocument] ∨ g.expected = [.document])
    (directives : ∀ token ∈ ds, ∃ d, token.word = .directive d) (some : ds ≠ []) (behind : EndsDirectives token)
    (noStart : token.word ≠ .documentStart) (tokens : g.tokens = ds ++ token :: rest) : ¬ Makes g events := by
  obtain ⟨first, later, split, marked, noEnd, noLast⟩ := @exists_first token ds rest directives (.inl some)
  have refused : Parallel (fun _ _ => False) g.step g.step := by
    rw [step_eq_of_first either (tokens.trans split) marked noEnd,
      readDocument_eq (g := { g with expected := [] }) (tokens.trans split) noEnd noLast, ← split]
    refine (parallel_readDirectives directives rfl behind behind false []).bind fun (handles, left) _ ⟨_, whole, _⟩ => ?_
    dsimp only at whole ⊢
    subst whole
    unfold openDocument peek
    dsimp only [bind, Except.bind]
    rw [beq_eq_false_iff_ne.mpr noStart]
    exact parallel_refuse
  intro makes
  cases makes with
  | ended nothing => exact refused.1 nothing
  | more next _ =>
    obtain ⟨_, _, impossible⟩ := refused.2 _ next
    exact impossible

theorem exists_directives {tokens : List Token} (ends : ∃ token ∈ tokens, EndsDirectives token) :
    ∃ ds token rest, tokens = ds ++ token :: rest ∧ (∀ token ∈ ds, ∃ d, token.word = .directive d) ∧
      EndsDirectives token := by
  induction tokens with
  | nil => simp at ends
  | cons first tokens ih =>
    by_cases directive : ∃ d, first.word = .directive d
    · obtain ⟨last, member, ended⟩ := ends
      have later : last ∈ tokens := (List.mem_cons.mp member).resolve_left fun same =>
        directive.elim fun d word => ended d (same ▸ word)
      obtain ⟨ds, token, rest, rfl, directives, behind⟩ := ih ⟨last, later, ended⟩
      exact ⟨first :: ds, token, rest, rfl, List.forall_mem_cons.mpr ⟨directive, directives⟩, behind⟩
    · exact ⟨[], first, tokens, rfl, by simp, fun d word => directive ⟨d, word⟩⟩

/-- A directive is of no use where no mark of a document follows. -/
theorem not_makes_of_directive {d : Directive} (either : g.expected = [.firstDocument] ∨ g.expected = [.document])
    (here : g.tokens = token :: rest) (directive : token.word = .directive d)
    (noStart : ∀ token ∈ g.tokens, token.word ≠ .documentStart)
    (ends : ∃ token ∈ g.tokens, EndsDirectives token) : ¬ Makes g events := by
  obtain ⟨ds, last, others, split, directives, behind⟩ := exists_directives ends
  refine not_makes_of_directives either directives ?_ behind (noStart last (by simp [split])) split
  rintro rfl
  rw [here] at split
  cases split
  exact behind d directive

theorem step_streamEnd (either : g.expected = [.firstDocument] ∨ g.expected = [.document])
    (tokens : g.tokens = token :: rest)
    (last : token.word = .streamEnd) :
    g.step = .ok (⟨.streamEnd, token.start⟩, { g with tokens := rest, expected := [] }) := by
  rw [step_eq_of_first either tokens (by rw [last]; rfl) (by simp [last])]
  unfold readDocument peek
  simp [tokens, endsDocument, last, bind, Except.bind, pure, Except.pure, drop]

/-- The end of the text ends the documents. -/
theorem makes_streamEnd_iff (either : g.expected = [.firstDocument] ∨ g.expected = [.document])
    (tokens : g.tokens = token :: rest) (last : token.word = .streamEnd) :
    Makes g events ↔ events = [⟨.streamEnd, token.start⟩] := by
  have step := step_streamEnd either tokens last
  constructor
  · intro makes
    obtain ⟨events', rfl, makes'⟩ := makes.of_step step
    cases makes' with
    | ended _ => rfl
    | more next _ => simp [Grammar.step] at next
  · rintro rfl
    exact .more step (.ended rfl)

/-- Whether only the end of the text is left, or the mark of the end of a document and then the end of the text. -/
inductive IsClosing : List Token → Prop
  | last {token : Token} {rest : List Token} (last : token.word = .streamEnd) : IsClosing (token :: rest)
  | marked {token token' : Token} {rest : List Token} (ends : token.word = .documentEnd) (last : token'.word = .streamEnd) :
      IsClosing (token :: token' :: rest)

theorem IsClosing.startsAtBorder {tokens : List Token} (closing : IsClosing tokens) : StartsAtBorder tokens := by
  cases closing with
  | last last => exact ⟨_, _, rfl, by rw [last]; rfl⟩
  | marked ends _ => exact ⟨_, _, rfl, by rw [ends]; rfl⟩

/-- The last document ends with the text. -/
theorem Makes.of_isClosing (closing : IsClosing g.tokens) (expected : g.expected = [.documentEnd]) :
    ∃ ending last, ending.what = .documentEnd ∧ last.what = .streamEnd ∧ Makes g [ending, last] := by
  generalize here : g.tokens = tokens at closing
  cases closing with
  | @last token rest last =>
    refine ⟨_, ⟨.streamEnd, token.start⟩, rfl, rfl, .more (step_documentEnd expected here) ?_⟩
    exact (makes_streamEnd_iff (.inr rfl) (if_neg (by simp [endsDocument, last])) last).mpr rfl
  | @marked token token' rest ends last =>
    refine ⟨_, ⟨.streamEnd, token'.start⟩, rfl, rfl, .more (step_documentEnd expected here) ?_⟩
    exact (makes_streamEnd_iff (.inr rfl) (if_pos (by simp [endsDocument, ends])) last).mpr rfl

/-- Between documents the end of one has no effect. -/
theorem Makes.of_documentEnd (expected : g.expected = [.document]) (tokens : g.tokens = token :: rest)
    (ends : token.word = .documentEnd) (makes : Makes g events) (left : rest ≠ []) :
    Makes { g with tokens := rest } events := by
  have step : g.step = Grammar.step { g with tokens := rest } := by
    obtain ⟨next, rest, rfl⟩ := List.exists_cons_of_ne_nil left
    unfold Grammar.step
    rw [expected]
    unfold readDocument peek
    rw [tokens]
    simp [endsDocument, ends]
    rfl
  cases makes with
  | ended nothing => exact .ended (step ▸ nothing)
  | more next later => exact .more (step ▸ next) later

/-- The first document may start without a mark. -/
theorem step_unmarked (expected : g.expected = [.firstDocument]) (tokens : g.tokens = token :: rest)
    (unmarked : token.word.isBorder = false ∨ token.word = .documentEnd) :
    g.step = .ok (⟨.documentStart, token.start⟩,
      { g with expected := [.blockNode, .documentEnd], handles := commonHandles }) := by
  have noStart : (bordersDocument token && !endsDocument token) = false := by
    rw [bordersDocument_eq]
    rcases unmarked with inside | ends
    · rw [inside]
      rfl
    · simp [endsDocument, ends]
  unfold step
  rw [expected]
  unfold firstDocument peek
  simp only [tokens, bind, Except.bind]
  rw [noStart]
  rfl

/-- Nothing is ended before the first document. -/
theorem not_makes_of_documentEnd (expected : g.expected = [.firstDocument]) (tokens : g.tokens = token :: rest)
    (ends : token.word = .documentEnd) : ¬ Makes g events := by
  have step := step_unmarked expected tokens (.inr ends)
  have refused : ∃ failure, Grammar.step { g with expected := [.blockNode, .documentEnd], handles := commonHandles } =
      .error (.fault failure) := by
    have border : token.word.isBorder = true := by rw [ends]; rfl
    have peeked : peek { g with expected := [.documentEnd], handles := commonHandles } = .ok token := by
      unfold peek
      rw [tokens]
    unfold Grammar.step
    dsimp only
    rw [peeked]
    dsimp only [bind, Except.bind]
    unfold readNode
    rw [peeked]
    dsimp only [bind, Except.bind]
    rw [ends, readProperties_of_border peeked border]
    dsimp only [resolveTag]
    rw [readContent_of_border true false {} none _ peeked border]
    exact ⟨_, rfl⟩
  intro makes
  obtain ⟨_, _, makes'⟩ := makes.of_step step
  exact refused.elim fun failure failed => not_makes_of_fault failed makes'

end Starting

end AccessPolicy.Yaml.Grammar
