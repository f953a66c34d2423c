import AccessPolicy.Proofs.Yaml.Loading

namespace AccessPolicy.Yaml

variable {text : List Char}

/-- A text behind empty lines. -/
def padded (n : Nat) (text : List Char) : List Char := List.replicate n '\n' ++ text

theorem padded_succ (n : Nat) (text : List Char) : padded (n + 1) text = '\n' :: padded n text := rfl

theorem length_padded (n : Nat) (text : List Char) : (padded n text).length = n + text.length := by simp [padded]

namespace Cutter

theorem start_advance_feed (rest : List Char) : (Cursor.start ('\n' :: rest)).advance = Cursor.start rest := by
  simp [Cursor.start, Cursor.advance, endsLine, isBreak, countBreaks]

/-- Where a key may start, an empty line is passed without a trace. -/
theorem skipToToken_feed (steps : Nat) (rest : List Char) {s : Cutter} (allowed : s.keyAllowed = true) :
    skipToToken (steps + 1) { s with cursor := Cursor.start ('\n' :: rest) } =
      skipToToken steps { s with cursor := Cursor.start rest } := by
  have spaces : (Cursor.start ('\n' :: rest)).skip (· == ' ') = Cursor.start ('\n' :: rest) := by
    simp [Cursor.skip, Cursor.run, Cursor.start, Cursor.advanceBy]
  have next : (Cursor.start ('\n' :: rest)).next = '\n' := rfl
  have passed : (Cursor.start ('\n' :: rest)).lineBreak.2 = Cursor.start rest := start_advance_feed rest
  rw [skipToToken]
  simp [spaces, next, isBreak, passed, allowed]

theorem skipToToken_padded (n steps : Nat) (text : List Char) {s : Cutter} (allowed : s.keyAllowed = true) :
    skipToToken (n + steps) { s with cursor := Cursor.start (padded n text) } =
      skipToToken steps { s with cursor := Cursor.start text } := by
  induction n with
  | zero => rw [Nat.zero_add]; rfl
  | succ n ih => rw [Nat.add_right_comm, padded_succ, skipToToken_feed _ _ allowed, ih]

/-- The cutting of a text before anything has been made of it. A byte order mark is a character like any other. -/
def fresh (text : List Char) : Cutter := ⟨Cursor.start text, [], -1, [], [none], true, false⟩

/-- The cutting at the start of a text that starts with no byte order mark. -/
theorem start_eq (unmarked : text.head? ≠ some '\ufeff') : Cutter.start text = fresh text := by
  have noMark : ((Cursor.start text).next == '\ufeff') = false := by
    cases text with
    | nil => rfl
    | cons ch rest => simpa [Cursor.next, Cursor.peek, Cursor.start] using unmarked
  simp [Cutter.start, fresh, noMark]

theorem fresh_places {P : Mark → Prop} (ahead : (Cursor.start text).Ahead P) : (fresh text).Places P :=
  ⟨ahead, fun _ member => (nomatch member), fun key member => by simp [fresh] at member⟩

theorem takeToken_padded (n : Nat) (text : List Char) : (fresh (padded n text)).takeToken = (fresh text).takeToken := by
  have steps : (Cursor.start (padded n text)).rest.length + 1 = n + ((Cursor.start text).rest.length + 1) := by
    show (padded n text).length + 1 = n + (text.length + 1)
    rw [length_padded, Nat.add_assoc]
  have skipped : skipToToken ((fresh (padded n text)).cursor.rest.length + 1) (fresh (padded n text)) =
      skipToToken ((fresh text).cursor.rest.length + 1) (fresh text) :=
    steps ▸ skipToToken_padded n _ text (s := fresh text) rfl
  unfold takeToken
  rw [skipped]

-- The taking of a token is not to be unfolded in all its cases here.
attribute [local irreducible] takeToken in
theorem run_padded (n : Nat) (text : List Char) :
    run ((padded n text).length + 1) (fresh (padded n text)) = run (text.length + 1) (fresh text) := by
  have step := meets_step (@fresh_places text (fun _ => True) fun _ _ => trivial)
  rw [run_succ, run_succ, takeToken_padded n text]
  cases next : (fresh text).takeToken >>= dropStale with
  | error failure => rfl
  | ok s =>
    obtain ⟨shorter, _⟩ := step.of_ok next
    dsimp only
    split
    · rfl
    · rename_i unfinished
      have fewer : s.cursor.rest.length < text.length := (shorter.resolve_left unfinished).2
      exact run_eq_of_lt (by rw [length_padded]; omega) fewer

end Cutter

/-- The tokens that are cut of a text in which a byte order mark is a character like any other. -/
def freshTokens (text : List Char) : Supply Token :=
  let taken := Cutter.run (text.length + 1) (Cutter.fresh text)
  let start := (Cursor.start text).mark
  { taken with items := ⟨.streamStart, start, start⟩ :: taken.items }

/-- The first token makes an event of its own, in which no document has part. -/
theorem ofEvents_start (start : Token) (rest : List Token) (failure : Option Failure) :
    Graph.ofEvents? (events ⟨start :: rest, failure⟩) = Graph.ofEvents?
      (Grammar.run failure (5 * rest.length + 9) ⟨rest, [.firstDocument], [], Grammar.commonHandles⟩) := by
  have steps : 5 * (rest.length + 1) + 5 = (5 * rest.length + 9) + 1 := by omega
  unfold events
  rw [List.length_cons, steps]
  rfl

/-- Behind empty lines, all tokens but the one that marks the start are those of the text. -/
theorem ofEvents_padded (n : Nat) (unmarked : (padded n text).head? ≠ some '\ufeff') :
    Graph.ofEvents? (events (tokens (padded n text))) = Graph.ofEvents? (events (freshTokens text)) := by
  unfold tokens freshTokens
  rw [Cutter.start_eq unmarked, Cutter.run_padded]
  dsimp only
  rw [ofEvents_start, ofEvents_start]

theorem firstForbidden_padded (n : Nat) (text : List Char) :
    firstForbidden? (padded n text) = (firstForbidden? text).map fun (c, position) => (c, n + position) := by
  have feeds (rest : List Char) : firstForbidden? ('\n' :: rest) =
      (firstForbidden? rest).map fun (c, position) => (c, 1 + position) := by
    unfold firstForbidden?
    rw [List.dropWhile_cons_of_pos rfl, List.takeWhile_cons_of_pos rfl]
    split <;> simp [Nat.add_comm]
  induction n with
  | zero => cases h : firstForbidden? text <;> simp [padded, h]
  | succ n ih =>
    rw [padded_succ, feeds, ih, Option.map_map]
    congr 1
    funext (c, position)
    simp only [Function.comp_apply, Prod.mk.injEq, true_and]
    omega

/-- A failure behind so many more characters. Only a character that may not occur is told by its position. -/
def Failure.behind (n : Nat) : Failure → Failure
  | character c position => character c (n + position)
  | form fault => form fault
  | scalar fault => scalar fault

/-- A text that starts with no byte order mark is loaded behind empty lines as without them. -/
theorem load_padded (n : Nat) (unmarked : text.head? ≠ some '\ufeff') :
    load (padded n text) = (load text).mapError (Failure.behind n) := by
  have forbidden := firstForbidden_padded n text
  cases found : firstForbidden? text with
  | some character =>
    obtain ⟨c, position⟩ := character
    rw [found] at forbidden
    rw [load_of_forbidden forbidden, load_of_forbidden found]
    rfl
  | none =>
    rw [found] at forbidden
    have places : Meets (fun _ => True) (Failure.Places fun _ => True) (load text) :=
      meets_load (fun _ _ => trivial) found
    have unmarkedToo : (padded n text).head? ≠ some '\ufeff' := by
      cases n with
      | zero => exact unmarked
      | succ n => simp [padded_succ]
    have same : load (padded n text) = load text := by
      rw [load_of_allowed forbidden, load_of_allowed found, ofEvents_padded n unmarkedToo]
      exact congrArg (· >>= rootData) (@ofEvents_padded text 0 unmarked).symm
    rw [same]
    cases loaded : load text with
    | ok v => rfl
    | error failure =>
      cases failure with
      | character c position => exact absurd (places.of_error loaded) id
      | form fault => rfl
      | scalar fault => rfl

theorem freshTokens_places {P : Mark → Prop} (ahead : (Cursor.start text).Ahead P) :
    (freshTokens text).Places P (Token.Places P) := by
  have taken := Cutter.run_places (text.length + 1) (Cutter.fresh_places ahead)
  unfold freshTokens
  generalize Cutter.run (text.length + 1) (Cutter.fresh text) = supply at taken ⊢
  exact ⟨List.forall_mem_cons.mpr ⟨⟨ahead.here, ahead.here⟩, taken.items⟩, taken.failure⟩

/-- No place that a failed loading tells is one of the empty lines, whatever the text starts with. -/
theorem meets_load_padded {P : Mark → Prop} (n : Nat) (ahead : (Cursor.start text).Ahead P)
    (allowed : firstForbidden? (padded n text) = none) :
    Meets (fun _ => True) (Failure.Places P) (load (padded n text)) := by
  cases n with
  | zero => exact meets_load ahead allowed
  | succ n =>
    have taken := freshTokens_places ahead
    rw [load_of_allowed allowed, ofEvents_padded (n + 1) (by simp [padded_succ])]
    generalize freshTokens text = supply at taken ⊢
    exact meets_supply taken

end AccessPolicy.Yaml
