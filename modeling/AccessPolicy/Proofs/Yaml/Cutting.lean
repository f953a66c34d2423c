import AccessPolicy.Proofs.Yaml.Scalars
import AccessPolicy.Yaml.Token.Supply
import Mathlib.Data.List.InsertIdx

namespace AccessPolicy.Yaml

namespace Cutter

variable {P : Mark → Prop} {c : Cursor} {s s' : Cutter}

/-- Whether all places are of a kind that some cutting knows or has ahead. -/
structure Places (P : Mark → Prop) (s : Cutter) : Prop where
  ahead : s.cursor.Ahead P
  made : ∀ token ∈ s.made, token.Places P
  keys : ∀ key, some key ∈ s.keys → P key.place

theorem places_anywhere (s : Cutter) : s.Places fun _ => True :=
  ⟨fun _ _ => trivial, fun _ _ => ⟨trivial, trivial⟩, fun _ _ => trivial⟩

/-- Whether a cutting that knows places of a kind has come to a place of the text and no further. -/
structure StandsAt (P : Mark → Prop) (c : Cursor) (s : Cutter) : Prop where
  cursor : s.cursor = c
  places : s.Places P

/-- Whether a cutting that knows places of a kind has come at least a character beyond a place of the text. -/
structure IsPast (P : Mark → Prop) (c : Cursor) (s : Cutter) : Prop where
  follows : c.advance.Follows s.cursor
  places : s.Places P

theorem StandsAt.isPast (stands : s.StandsAt P c) (past : s'.IsPast P s.cursor) : s'.IsPast P c :=
  stands.cursor ▸ past

/-- A trial that gets past where the cutting stands. -/
theorem StandsAt.meets (stands : s.StandsAt P c) {trial : Except Failure Cutter}
    (meets : Meets (IsPast P s.cursor) (Failure.Places P) trial) : Meets (IsPast P c) (Failure.Places P) trial :=
  stands.cursor ▸ meets

section Standing

theorem Places.stands (places : s.Places P) : s.StandsAt P s.cursor := ⟨rfl, places⟩

theorem Places.here (places : s.Places P) : P s.here := places.ahead.here

theorem Places.allowing (places : s.Places P) (allowed : Bool) : Places P { s with keyAllowed := allowed } :=
  { places with }

theorem Places.add {token : Token} (places : s.Places P) (known : token.Places P) : (s.add token).Places P :=
  { places with made := List.forall_mem_cons.mpr ⟨known, places.made⟩ }

theorem Places.addAt (places : s.Places P) {word : Word} {place : Mark} (known : P place) :
    (s.addAt word place).Places P := places.add ⟨known, known⟩

theorem Places.insertAt (places : s.Places P) (position : Nat) (word : Word) {place : Mark} (known : P place) :
    (s.insertAt position word place).Places P := by
  refine { places with made := fun token member => ?_ }
  rcases List.eq_or_mem_of_mem_insertIdx member with rfl | earlier
  · exact ⟨known, known⟩
  · exact places.made token earlier

theorem meets_keyFault {α : Type} {right : α → Prop} {key : PossibleKey} (places : s.Places P) (known : P key.place) :
    Meets right (Failure.Places P) (s.keyFault key : Except Failure α) :=
  meets_tokenFault known places.here

theorem meets_refuse {α : Type} {right : α → Prop} {problem : Problem} (places : s.Places P) :
    Meets right (Failure.Places P) (s.refuse problem : Except Failure α) :=
  failure_places_form places.here fun _ _ none => nomatch none

theorem meets_dropStale (places : s.Places P) :
    Meets (fun s' => s'.finished = s.finished ∧ s'.StandsAt P s.cursor) (Failure.Places P) s.dropStale := by
  unfold dropStale
  refine Meets.bind (P := fun keys => ∀ slot ∈ keys, ∀ key, slot = some key → P key.place)
    (meets_mapM fun slot member => ?_) fun keys known => ?_
  · cases slot with
    | none => exact fun key none => nomatch none
    | some key =>
      have place := places.keys key (List.mem_reverse.mp member)
      dsimp only
      split
      · split
        · exact meets_keyFault places place
        · exact fun key none => nomatch none
      · exact fun other same => Option.some.inj same ▸ place
  · exact ⟨rfl, rfl, { places with keys := fun key member => known _ (List.mem_reverse.mp member) key rfl }⟩

theorem meets_dropKey (places : s.Places P) : Meets (StandsAt P s.cursor) (Failure.Places P) s.dropKey := by
  unfold dropKey
  split
  · rename_i key rest slots
    split
    · exact meets_keyFault places (places.keys key (by simp [slots]))
    · exact ⟨rfl, { places with keys := fun key member => places.keys key (by simp_all) }⟩
  · exact places.stands

theorem meets_noteKey (places : s.Places P) : Meets (StandsAt P s.cursor) (Failure.Places P) s.noteKey := by
  unfold noteKey
  split
  · refine (meets_dropKey places).bind fun dropped stands => ?_
    refine ⟨stands.cursor, { stands.places with keys := fun key member => ?_ }⟩
    rcases List.mem_cons.mp member with same | later
    · exact Option.some.inj same ▸ stands.places.here
    · exact stands.places.keys key (List.mem_of_mem_drop later)
  · exact places.stands

theorem unwind_stands (column : Int) (steps : Nat) (places : s.Places P) :
    StandsAt P s.cursor (unwind column steps s) := by
  induction steps generalizing s with
  | zero => exact places.stands
  | succ steps ih =>
    rw [unwind]
    split
    · have next : Places P { s.addAt .blockEnd s.here with indent := s.outer.headD (-1), outer := s.outer.drop 1 } :=
        { places.addAt places.here with }
      exact ⟨(ih next).cursor, (ih next).places⟩
    · exact places.stands

theorem indentTo_stands {column : Nat} (places : s.Places P) (indents : s.indentTo column = some s') :
    s'.StandsAt P s.cursor := by
  unfold indentTo at indents
  split at indents
  · obtain rfl := Option.some.inj indents
    exact ⟨rfl, { places with }⟩
  · cases indents

theorem openBlock_stands (word : Word) (column : Nat) (places : s.Places P) :
    StandsAt P s.cursor (s.openBlock word column) := by
  unfold openBlock
  split
  · rename_i indents
    have stands := indentTo_stands places indents
    exact ⟨stands.cursor, stands.places.addAt stands.places.here⟩
  · exact places.stands

theorem settleKey_stands {key : PossibleKey} (places : s.Places P) (known : P key.place) :
    StandsAt P s.cursor (s.settleKey key) := by
  have dropped : Places P { s with keys := none :: s.keys.drop 1 } := by
    refine { places with keys := fun key member => ?_ }
    rcases List.mem_cons.mp member with same | later
    · cases same
    · exact places.keys key (List.mem_of_mem_drop later)
  have inserted : Places P { insertAt { s with keys := none :: s.keys.drop 1 } key.position .key key.place with
      keyAllowed := false } := { dropped.insertAt key.position .key known with }
  unfold settleKey
  dsimp only
  split
  · exact ⟨rfl, inserted⟩
  · split
    · rename_i indents
      have stands := indentTo_stands inserted indents
      exact ⟨stands.cursor, stands.places.insertAt key.position .blockMappingStart known⟩
    · exact ⟨rfl, inserted⟩

end Standing

section Moving

theorem take_isPast (word : Word) (size : Nat) (places : s.Places P) : (s.take word (size + 1)).IsPast P s.cursor := by
  have follows := s.cursor.advance_follows_advanceBy size
  have later := places.ahead.of (s.cursor.follows_advance.trans follows)
  have token : Token.Places P ⟨word, s.here, (s.cursor.advanceBy (size + 1)).mark⟩ := ⟨places.here, later.here⟩
  exact ⟨follows, { places.add token with ahead := later }⟩

theorem unwindTo_stands (column : Int) (places : s.Places P) : (s.unwindTo column).StandsAt P s.cursor :=
  unwind_stands column _ places

theorem meets_takeDocumentMark (word : Word) (places : s.Places P) :
    Meets (IsPast P s.cursor) (Failure.Places P) (s.takeDocumentMark word) := by
  have unwound := unwindTo_stands (-1) places
  refine unwound.meets ((meets_dropKey unwound.places).bind fun dropped stands => ?_)
  exact stands.isPast (take_isPast word 2 (stands.places.allowing false))

theorem meets_takeDirective (places : s.Places P) : Meets (IsPast P s.cursor) (Failure.Places P) s.takeDirective := by
  have unwound := unwindTo_stands (-1) places
  refine unwound.meets ((meets_dropKey unwound.places).bind fun dropped stands => ?_)
  refine (readsToken_directive stands.places.ahead).bind fun (token, after) read => ?_
  have later := stands.places.ahead.of (dropped.cursor.follows_advance.trans read.1)
  exact stands.isPast ⟨read.1, { stands.places.add read.2 with ahead := later }⟩

theorem meets_takeOpening (word : Word) (places : s.Places P) :
    Meets (IsPast P s.cursor) (Failure.Places P) (s.takeOpening word) := by
  refine (meets_noteKey places).bind fun noted stands => ?_
  have inside : Places P { noted with keys := none :: noted.keys, keyAllowed := true } := by
    refine { stands.places with keys := fun key member => ?_ }
    rcases List.mem_cons.mp member with same | outer
    · cases same
    · exact stands.places.keys key outer
  exact stands.isPast (take_isPast word 0 inside)

theorem meets_takeClosing (word : Word) (places : s.Places P) :
    Meets (IsPast P s.cursor) (Failure.Places P) (s.takeClosing word) := by
  refine (meets_dropKey places).bind fun dropped stands => ?_
  have outside : Places P { dropped with
      keys := if dropped.inFlow then dropped.keys.drop 1 else dropped.keys, keyAllowed := false } := by
    refine { stands.places with keys := fun key member => stands.places.keys key ?_ }
    split at member
    · exact List.mem_of_mem_drop member
    · exact member
  exact stands.isPast (take_isPast word 0 outside)

theorem meets_takeComma (places : s.Places P) : Meets (IsPast P s.cursor) (Failure.Places P) s.takeComma :=
  (meets_dropKey places).bind fun _ stands => stands.isPast (take_isPast .flowEntry 0 (stands.places.allowing true))

/-- Outside brackets an indicator may open a block. -/
theorem opened_stands (word : Word) (places : s.Places P) :
    (if s.inFlow then s else s.openBlock word s.here.column).StandsAt P s.cursor := by
  split
  · exact places.stands
  · exact openBlock_stands word _ places

/-- An indicator is taken after the block that it may open. -/
theorem meets_indicator (block word : Word) (allows : Cutter → Bool) (places : s.Places P) :
    Meets (IsPast P s.cursor) (Failure.Places P) (do
      let s ← (if s.inFlow then s else s.openBlock block s.here.column).dropKey
      return { s with keyAllowed := allows s }.take word 1) := by
  have opened := opened_stands block places
  refine opened.meets ((meets_dropKey opened.places).bind fun dropped stands => ?_)
  exact stands.isPast (take_isPast word 0 (stands.places.allowing (allows dropped)))

theorem meets_takeDash (places : s.Places P) : Meets (IsPast P s.cursor) (Failure.Places P) s.takeDash := by
  unfold takeDash
  split
  · exact meets_refuse places
  · exact meets_indicator .blockSequenceStart .blockEntry (fun _ => true) places

theorem meets_takeKeyMark (places : s.Places P) : Meets (IsPast P s.cursor) (Failure.Places P) s.takeKeyMark := by
  unfold takeKeyMark
  split
  · exact meets_refuse places
  · exact meets_indicator .blockMappingStart .key (!·.inFlow) places

theorem meets_takeColon (places : s.Places P) : Meets (IsPast P s.cursor) (Failure.Places P) s.takeColon := by
  unfold takeColon
  split
  · rename_i key rest slots
    have settled := settleKey_stands places (places.keys key (by simp [slots]))
    exact settled.isPast (take_isPast .value 0 settled.places)
  · split
    · exact meets_refuse places
    · exact meets_indicator .blockMappingStart .value (!·.inFlow) places

theorem meets_takeKeyStart {read : Cursor → Except Failure (Token × Cursor)}
    (reads : ∀ {c}, c.Ahead P → ReadsToken P c (read c)) (places : s.Places P) :
    Meets (IsPast P s.cursor) (Failure.Places P) (s.takeKeyStart read) := by
  refine (meets_noteKey places).bind fun noted stands => ?_
  refine (reads stands.places.ahead).bind fun (token, after) taken => ?_
  have later := stands.places.ahead.of (noted.cursor.follows_advance.trans taken.1)
  exact stands.isPast ⟨taken.1, { stands.places.add taken.2 with ahead := later }⟩

theorem meets_takeBlock (places : s.Places P) : Meets (IsPast P s.cursor) (Failure.Places P) s.takeBlock := by
  refine (meets_dropKey places).bind fun dropped stands => ?_
  refine (readsToken_block dropped.indent stands.places.ahead).bind fun (token, after) taken => ?_
  have later := stands.places.ahead.of (dropped.cursor.follows_advance.trans taken.1)
  exact stands.isPast ⟨taken.1, { stands.places.add taken.2 with ahead := later }⟩

/-- Whatever may start a key leaves the number of open brackets as it is. -/
theorem inFlow_of_noteKey (noted : s.noteKey = .ok s') : s'.inFlow = s.inFlow := by
  unfold noteKey at noted
  split at noted
  · cases dropped : s.dropKey with
    | error failure => simp [dropped, bind, Except.bind] at noted
    | ok s'' =>
      have same : s''.inFlow = s.inFlow := by
        unfold dropKey at dropped
        split at dropped
        · rename_i slots
          split at dropped
          · cases dropped
          · cases dropped
            simp [inFlow, slots]
        · cases dropped
          rfl
      rw [dropped] at noted
      cases noted
      rw [← same]
      cases slots : s''.keys <;> simp [inFlow, slots]
  · cases noted
    rfl

/-- Where a plain scalar may start, it has a first piece. -/
theorem exists_piece_of_plainStarts (left : s.cursor.rest ≠ []) (starts : s.plainStarts = true) :
    s.cursor.next ≠ '#' ∧ plainPiece s.inFlow s.cursor.rest ≠ [] := by
  obtain ⟨ch, rest, here⟩ := List.exists_cons_of_ne_nil left
  have next : s.cursor.next = ch := by simp [Cursor.next, Cursor.peek, here]
  have second : s.cursor.peek 1 = rest.headD endMark := by cases rest <;> simp [Cursor.peek, here]
  have continues : ch ≠ '#' ∧ endsPlain s.inFlow ch (rest.headD endMark) = false := by
    simp only [plainStarts, next, second, Bool.or_eq_true, Bool.and_eq_true, Bool.not_eq_true'] at starts
    unfold endsPlain
    rcases starts with plain | ⟨followed, indicator⟩
    · simp only [Bool.or_eq_false_iff] at plain
      rw [plain.1]
      have others := plain.2
      simp at others
      simp [others]
    · rcases indicator with dash | ⟨outside, mark⟩
      · obtain rfl := beq_iff_eq.mp dash
        simp [isGap, isSpaceOrEnd, isLineEnd, isBreak, endMark]
      · rw [outside]
        rcases mark with question | colon
        · obtain rfl := beq_iff_eq.mp question
          simp [isGap, isSpaceOrEnd, isLineEnd, isBreak, endMark]
        · obtain rfl := beq_iff_eq.mp colon
          rw [followed]
          simp [isGap, isSpaceOrEnd, isLineEnd, isBreak, endMark]
  refine ⟨next ▸ continues.1, ?_⟩
  rw [here, plainPiece, continues.2]
  exact List.cons_ne_nil _ _

theorem meets_takePlain (places : s.Places P) (left : s.cursor.rest ≠ []) (starts : s.plainStarts = true) :
    Meets (IsPast P s.cursor) (Failure.Places P) s.takePlain := by
  unfold takePlain
  obtain ⟨noComment, piece⟩ := exists_piece_of_plainStarts left starts
  have noting := meets_noteKey places
  cases noted : s.noteKey with
  | error failure => exact noting.of_error noted
  | ok s' =>
    have stands := noting.of_ok noted
    rw [← inFlow_of_noteKey noted, ← stands.cursor] at piece
    rw [← stands.cursor] at noComment
    obtain ⟨token, follows⟩ := follows_readPlain s'.inFlow (s'.indent + 1) stands.places.ahead noComment piece
    have later := stands.places.ahead.of (s'.cursor.follows_advance.trans follows)
    exact stands.isPast ⟨follows, { stands.places.add token with ahead := later }⟩

end Moving

/-- Whether a cutting is at the end, or has gone on to where less text is left than there was. -/
def IsShorter (s s' : Cutter) : Prop :=
  s'.finished = true ∨ s.cursor.Follows s'.cursor ∧ s'.cursor.rest.length < s.cursor.rest.length

theorem meets_takeEnd (places : s.Places P) :
    Meets (fun s' => s'.finished = true ∧ s'.Places P) (Failure.Places P) s.takeEnd := by
  have unwound := unwindTo_stands (-1) places
  refine (meets_dropKey unwound.places).bind fun dropped stands => ?_
  have ended : (dropped.addAt .streamEnd dropped.cursor.mark).Places P := stands.places.addAt stands.places.here
  exact ⟨rfl, { ended with keys := fun key member => by simp at member }⟩

theorem skipToToken_follows (steps : Nat) (places : s.Places P) :
    s.cursor.Follows (skipToToken steps s).cursor ∧ (skipToToken steps s).Places P := by
  induction steps generalizing s with
  | zero => exact ⟨.refl _, places⟩
  | succ steps ih =>
    have follows := (s.cursor.follows_skip (· == ' ')).trans (follows_comment _)
    rw [skipToToken]
    generalize (if (s.cursor.skip (· == ' ')).next == '#' then (s.cursor.skip (· == ' ')).skip (!isLineEnd ·)
      else s.cursor.skip (· == ' ')) = d at follows ⊢
    split
    · have broken := follows.trans d.follows_lineBreak
      have next : Places P { s with cursor := d.lineBreak.2, keyAllowed := s.keyAllowed || !s.inFlow } :=
        { places with ahead := places.ahead.of broken }
      exact ⟨broken.trans (ih next).1, (ih next).2⟩
    · exact ⟨follows, { places with ahead := places.ahead.of follows }⟩

theorem meets_takeToken (places : s.Places P) :
    Meets (fun s' => s.IsShorter s' ∧ s'.Places P) (Failure.Places P) s.takeToken := by
  have skipping := skipToToken_follows (s.cursor.rest.length + 1) places
  unfold takeToken
  generalize skipToToken (s.cursor.rest.length + 1) s = t at skipping ⊢
  obtain ⟨skipped, known⟩ := skipping
  refine (meets_dropStale known).bind fun kept ⟨_, stands⟩ => ?_
  have unwound := unwindTo_stands kept.here.column stands.places
  have here : s.cursor.Follows (kept.unwindTo kept.here.column).cursor := by
    rwa [unwound.cursor, stands.cursor]
  have places := unwound.places
  generalize kept.unwindTo kept.here.column = t at here places ⊢
  dsimp only
  split
  · refine (meets_takeEnd places).mono fun ended known => ⟨.inl known.1, known.2⟩
  · rename_i left
    have left : t.cursor.rest ≠ [] := by simpa using left
    have taken {trial : Except Failure Cutter} (meets : Meets (IsPast P t.cursor) (Failure.Places P) trial) :
        Meets (fun s' => s.IsShorter s' ∧ s'.Places P) (Failure.Places P) trial := by
      refine meets.mono fun next past => ⟨.inr ?_, past.places⟩
      exact ⟨here.trans (t.cursor.follows_advance.trans past.follows),
        Nat.lt_of_lt_of_le (past.follows.length_lt left) here.length_le⟩
    split
    · exact taken (meets_takeDirective places)
    · split
      · exact taken (meets_takeDocumentMark _ places)
      · split
        · exact taken (meets_takeDocumentMark _ places)
        · split
          · exact taken (meets_takeOpening _ places)
          · exact taken (meets_takeOpening _ places)
          · exact taken (meets_takeClosing _ places)
          · exact taken (meets_takeClosing _ places)
          · exact taken (meets_takeComma places)
          · exact taken (meets_takeKeyStart readsToken_anchor places)
          · exact taken (meets_takeKeyStart readsToken_anchor places)
          · exact taken (meets_takeKeyStart readsToken_tag places)
          · exact taken (meets_takeKeyStart readsToken_quoted places)
          · exact taken (meets_takeKeyStart readsToken_quoted places)
          · split
            · exact taken (meets_takeDash places)
            · split
              · exact taken (meets_takeKeyMark places)
              · split
                · exact taken (meets_takeColon places)
                · split
                  · exact taken (meets_takeBlock places)
                  · split
                    · rename_i starts
                      exact taken (meets_takePlain places left starts)
                    · exact failure_places_form places.here fun _ _ none => by simp at none

section Running

-- From here on only the lemma about a taken token is used; unfolding all cases of it would take long.
attribute [local irreducible] takeToken

/-- A step to the next token makes the text that is left shorter, or comes to the end. -/
theorem meets_step (places : s.Places P) :
    Meets (fun s' => s.IsShorter s' ∧ s'.Places P) (Failure.Places P) (s.takeToken >>= dropStale) := by
  refine (meets_takeToken places).bind fun taken ⟨shorter, known⟩ => ?_
  refine (meets_dropStale known).mono fun kept ⟨finished, stands⟩ => ⟨?_, stands.places⟩
  rwa [IsShorter, finished, stands.cursor]

theorem settled_subset {token : Token} (member : token ∈ s.settled) : token ∈ s.made := by
  unfold settled at member
  split at member
  · exact List.mem_reverse.mp (List.mem_of_mem_take member)
  · exact List.mem_reverse.mp member

theorem run_succ (steps : Nat) (s : Cutter) :
    run (steps + 1) s =
      match s.takeToken >>= dropStale with
      | .error failure => { items := s.settled, failure := some failure }
      | .ok next => if next.finished then { items := next.made.reverse } else run steps next := rfl

theorem run_places (steps : Nat) (places : s.Places P) : (run steps s).Places P (Token.Places P) := by
  induction steps generalizing s with
  | zero => exact ⟨fun token member => places.made token (List.mem_reverse.mp member), fun _ none => nomatch none⟩
  | succ steps ih =>
    have step := meets_step places
    rw [run_succ]
    cases next : s.takeToken >>= dropStale with
    | error failure =>
      refine ⟨fun token member => places.made token (settled_subset member), fun other same => ?_⟩
      exact Option.some.inj same ▸ step.of_error next
    | ok s' =>
      obtain ⟨_, known⟩ := step.of_ok next
      dsimp only
      split
      · exact ⟨fun token member => known.made token (List.mem_reverse.mp member), fun _ none => nomatch none⟩
      · exact ih known

/-- Any number of steps is enough that is greater than the number of characters that are left. -/
theorem run_eq_of_lt {steps more : Nat} (enough : s.cursor.rest.length < steps) (too : s.cursor.rest.length < more) :
    run steps s = run more s := by
  induction steps generalizing s more with
  | zero => exact absurd enough (Nat.not_lt_zero _)
  | succ steps ih =>
    obtain ⟨more, rfl⟩ := Nat.exists_eq_succ_of_ne_zero (Nat.ne_zero_of_lt too)
    have step := meets_step s.places_anywhere
    rw [run_succ, run_succ]
    cases next : s.takeToken >>= dropStale with
    | error failure => rfl
    | ok s' =>
      obtain ⟨shorter, _⟩ := step.of_ok next
      dsimp only
      split
      · rfl
      · rename_i unfinished
        have left := (shorter.resolve_left unfinished).2
        exact ih (by omega) (by omega)

end Running

end Cutter

/-- The places of the tokens of a text, and those that a failure among them tells, are places of the text. -/
theorem tokens_places {P : Mark → Prop} {text : List Char} (ahead : (Cursor.start text).Ahead P) :
    (tokens text).Places P (Token.Places P) := by
  have start : (Cutter.start text).Places P := by
    unfold Cutter.start
    refine ⟨?_, fun _ member => (nomatch member), fun key member => by simp at member⟩
    dsimp only
    split
    · exact ahead.of (Cursor.follows_advance _)
    · exact ahead
  have taken := Cutter.run_places (text.length + 1) start
  unfold tokens
  generalize Cutter.run (text.length + 1) (Cutter.start text) = supply at taken ⊢
  exact ⟨List.forall_mem_cons.mpr ⟨⟨ahead.here, ahead.here⟩, taken.items⟩, taken.failure⟩

end AccessPolicy.Yaml
