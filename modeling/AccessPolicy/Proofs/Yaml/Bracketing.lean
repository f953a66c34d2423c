import AccessPolicy.Proofs.Yaml.Recutting

namespace AccessPolicy.Yaml

/-- How many brackets are open behind a token, given how many are before it. A closing bracket with none open closes
none. -/
def Word.levelBehind (n : Nat) : Word → Nat
  | .flowSequenceStart | .flowMappingStart => n + 1
  | .flowSequenceEnd | .flowMappingEnd => n - 1
  | _ => n

/-- How many brackets are open behind some tokens, the last one first. -/
def level (made : List Token) : Nat := made.foldr (fun token n => token.word.levelBehind n) 0

@[simp] theorem level_nil : level [] = 0 := rfl

@[simp] theorem level_cons (token : Token) (made : List Token) :
    level (token :: made) = token.word.levelBehind (level made) := rfl

/-- Whether a token of a kind may be put before others. -/
def Word.isLate : Word → Bool
  | .key | .blockMappingStart => true
  | _ => false

/-- Whether a token of a kind is a mark of documents. -/
def Word.isBorder (word : Word) : Bool := Grammar.bordersDocument ⟨word, default, default⟩

theorem bordersDocument_eq (token : Token) : Grammar.bordersDocument token = token.word.isBorder := rfl

/-- Whether tokens come of others, the last one first: those that are added behind are of certain kinds. -/
inductive Grows (P : Word → Prop) : List Token → List Token → Prop
  | refl (made : List Token) : Grows P made made
  | push {made later : List Token} {token : Token} (sofar : Grows P made later) (allowed : P token.word) :
      Grows P made (token :: later)
  | insert {made later : List Token} {token : Token} (sofar : Grows P made later) (late : token.word.isLate = true)
      (i : Nat) : Grows P made (later.insertIdx i token)

theorem level_insertIdx {token : Token} (late : token.word.isLate = true) (i : Nat) (made : List Token) :
    level (made.insertIdx i token) = level made := by
  have neutral (n : Nat) : token.word.levelBehind n = n := by
    unfold Word.isLate at late
    split at late
    · simp [*, Word.levelBehind]
    · simp [*, Word.levelBehind]
    · cases late
  induction made generalizing i with
  | nil => cases i <;> simp [neutral]
  | cons first made ih => cases i <;> simp [neutral, ih]

theorem Word.isBorder_of_isLate {word : Word} (late : word.isLate = true) : word.isBorder = false := by
  unfold isLate at late
  split at late
  · rfl
  · rfl
  · cases late

/-- Tokens with the first mark of a document among them, with so many open brackets before it. -/
def BordersAt (n : Nat) (made : List Token) : Prop :=
  ∃ later border earlier, made = later ++ border :: earlier ∧ border.word.isBorder = true ∧
    (∀ token ∈ earlier, token.word.isBorder = false) ∧ level earlier = n

theorem insertIdx_append_right {α : Type} (xs ys : List α) (i : Nat) (x : α) :
    (xs ++ ys).insertIdx (xs.length + i) x = xs ++ ys.insertIdx i x := by
  induction xs with
  | nil => simp
  | cons y xs ih => simp [Nat.add_right_comm, ih]

section Grows

variable {P : Word → Prop} {made later : List Token} {n : Nat}

theorem Grows.trans {last : List Token} (first : Grows P made later) (second : Grows P later last) :
    Grows P made last := by
  induction second with
  | refl => exact first
  | push _ allowed ih => exact .push ih allowed
  | insert _ late i ih => exact .insert ih late i

/-- All tokens are of a kind if the first were and those added are. -/
theorem Grows.forall (grows : Grows P made later) (others : ∀ word, word.isBorder = false → P word)
    (all : ∀ token ∈ made, P token.word) : ∀ token ∈ later, P token.word := by
  induction grows with
  | refl => exact all
  | push _ allowed ih => exact List.forall_mem_cons.mpr ⟨allowed, ih⟩
  | insert _ late i ih =>
    intro token member
    rcases List.eq_or_mem_of_mem_insertIdx member with rfl | member
    · exact others _ (Word.isBorder_of_isLate late)
    · exact ih token member

/-- If the first token is no mark of a document, none gets before it. -/
theorem Grows.first (grows : Grows P made later) {first : Token} (starts : made.getLast? = some first)
    (inside : first.word.isBorder = false) : ∃ first', later.getLast? = some first' ∧ first'.word.isBorder = false := by
  induction grows with
  | refl => exact ⟨first, starts, inside⟩
  | @push later token _ _ ih =>
    obtain ⟨first', starts', inside'⟩ := ih
    refine ⟨first', ?_, inside'⟩
    rw [List.getLast?_cons, starts']
    rfl
  | @insert later token _ late i ih =>
    obtain ⟨first', starts', inside'⟩ := ih
    obtain ⟨others, rfl⟩ := List.getLast?_eq_some_iff.mp starts'
    rcases Nat.lt_trichotomy i (others.length + 1) with within | end_ | beyond
    · refine ⟨first', ?_, inside'⟩
      rw [insertIdx_append (by omega)]
      simp
    · refine ⟨token, ?_, Word.isBorder_of_isLate late⟩
      have behind : i = (others ++ [first']).length := by simpa using end_
      rw [behind, List.insertIdx_length_self, List.getLast?_concat]
    · refine ⟨first', ?_, inside'⟩
      rw [List.insertIdx_of_length_lt (by simpa using beyond)]
      simp

theorem BordersAt.grows (borders : BordersAt n made) (grows : Grows P made later) : BordersAt n later := by
  induction grows with
  | refl => exact borders
  | @push later token _ _ ih =>
    obtain ⟨behind, border, earlier, rfl, known⟩ := ih
    exact ⟨token :: behind, border, earlier, rfl, known⟩
  | @insert later token _ late i ih =>
    obtain ⟨behind, border, earlier, rfl, isBorder, inside, opened⟩ := ih
    rcases Nat.lt_or_ge behind.length i with beyond | within
    · obtain ⟨j, rfl⟩ := Nat.exists_eq_add_of_lt beyond
      refine ⟨behind, border, earlier.insertIdx j token, ?_, isBorder, fun other member => ?_, ?_⟩
      · rw [Nat.add_assoc, insertIdx_append_right, List.insertIdx_succ_cons]
      · rcases List.eq_or_mem_of_mem_insertIdx member with rfl | member
        · exact Word.isBorder_of_isLate late
        · exact inside other member
      · rw [level_insertIdx late, opened]
    · exact ⟨behind.insertIdx i token, border, earlier, insertIdx_append within .., isBorder, inside, opened⟩

end Grows

/-- Whether blocks stand in each other, down to none. -/
def Nested (indent : Int) : List Int → Prop
  | [] => indent = -1
  | outer :: rest => outer < indent ∧ -1 ≤ outer ∧ Nested outer rest

theorem Nested.least {indent : Int} {outer : List Int} (nested : Nested indent outer) : -1 ≤ indent := by
  cases outer with
  | nil => exact Int.le_of_eq nested.symm
  | cons outer rest =>
    have inner := nested.1
    have least := nested.2.1
    omega

theorem Nested.outermost {outer : List Int} (nested : Nested (-1) outer) : outer = [] := by
  cases outer with
  | nil => rfl
  | cons outer rest =>
    have inner := nested.1
    have least := nested.2.1
    omega

theorem meets_directive_word (c : Cursor) :
    Meets (fun r => ∃ d, r.1.word = .directive d) (fun _ => True) (readDirective c) := by
  unfold readDirective
  dsimp only
  generalize c.advance.advanceBy (c.advance.run isNameChar).length = d
  split
  · trivial
  · have ending (directive : Directive) (d : Cursor) :
        Meets (fun r => ∃ d, r.1.word = .directive d) (fun _ => True) (do
          let after ← skipLineRest .directive c.mark d
          return (⟨.directive directive, c.mark, d.mark⟩, after) : Except Failure (Token × Cursor)) :=
      meets_any.bind fun after _ => ⟨directive, rfl⟩
    split
    · exact meets_any.bind fun (directive, d) _ => ending directive d
    · split
      · exact meets_any.bind fun (directive, d) _ => ending directive d
      · have other : Meets (fun _ => True) (fun _ => True)
            (.ok (.other, d.skip (!isLineEnd ·)) : Except Failure (Directive × Cursor)) := meets_any
        exact other.bind fun read _ => ending read.1 read.2

/-- Whether a token of a kind is a node without parts, or a property of a node. -/
def Word.isAlone : Word → Bool
  | .alias _ | .anchor _ | .tag .. | .scalar .. => true
  | _ => false

theorem Word.alone {word : Word} (alone : word.isAlone = true) :
    word.isBorder = false ∧ ∀ n, word.levelBehind n = n := by
  cases word <;> first | exact ⟨rfl, fun _ => rfl⟩ | cases alone

/-- Whether what is read is a token for a node without parts or a property, if it can be read. -/
def ReadsAlone (read : Cursor → Except Failure (Token × Cursor)) : Prop :=
  ∀ c, Meets (fun r => r.1.word.isAlone = true) (fun _ => True) (read c)

theorem anchor_alone : ReadsAlone readAnchor := by
  intro c
  unfold readAnchor
  dsimp only
  split
  · trivial
  · split
    · trivial
    · change (if _ then _ else _ : Word).isAlone = true
      split <;> rfl

theorem tag_alone : ReadsAlone readTag := by
  intro c
  unfold readTag
  have body : Meets (fun r => r.1.isAlone = true) (fun _ => True) (readTagBody c.mark c) := by
    unfold readTagBody
    dsimp only
    split
    · refine meets_any.bind fun read _ => ?_
      split
      · trivial
      · exact rfl
    · split
      · exact rfl
      · have suffixed (handle : String) (d : Cursor) :
            Meets (fun r => r.1.isAlone = true) (fun _ => True) (do
              let read ← readAddress .tag .tagName c.mark d
              return (.tag (some handle) read.1, read.2) : Except Failure (Word × Cursor)) :=
          meets_any.bind fun read _ => rfl
        split
        · exact meets_any.bind fun read _ => suffixed read.1 read.2
        · exact suffixed "!" _
  refine body.bind fun read alone => ?_
  dsimp only
  split
  · trivial
  · exact alone

theorem quoted_alone : ReadsAlone readQuoted := fun c => by
  unfold readQuoted
  exact meets_any.bind fun (text, d) _ => rfl

theorem block_alone (outer : Int) : ReadsAlone (readBlock outer) := fun c => by
  unfold readBlock
  refine meets_any.bind fun (chomping, increment, d) _ => ?_
  exact meets_any.bind fun e _ => rfl

/-- Which marks of documents may be made at a place: those that stand there. -/
structure Cursor.Allows (P : Word → Prop) (c : Cursor) : Prop where
  directive : c.mark.column = 0 → c.next = '%' → ∀ d, P (.directive d)
  opening : c.mark.column = 0 → c.next = '-' → c.atDocumentMark = true → P .documentStart
  closing : c.mark.column = 0 → c.next = '.' → c.atDocumentMark = true → P .documentEnd
  last : c.rest = [] → P .streamEnd

theorem Cursor.allows_any (c : Cursor) : c.Allows fun _ => True :=
  ⟨fun _ _ _ => trivial, fun _ _ _ => trivial, fun _ _ _ => trivial, fun _ => trivial⟩

namespace Cutter

/-- Whether a cutting is not at the end, its blocks stand in each other, and as many brackets are open as its tokens
say. -/
structure IsSound (s : Cutter) : Prop where
  nested : Nested s.indent s.outer
  goesOn : s.finished = false
  level : s.keys.length = level s.made + 1

/-- Whether a cutting has come to the end and made the token for it. -/
structure IsAtEnd (s : Cutter) : Prop where
  finished : s.finished = true
  last : ∃ token ∈ s.made, token.word = .streamEnd

/-- Whether a cutting comes of another by adding tokens of some kinds, at least one, and is sound unless it is at the
end. -/
structure Comes (P : Word → Prop) (s s' : Cutter) : Prop where
  grows : Grows P s.made s'.made
  some : s'.made ≠ []
  sound : s'.IsAtEnd ∨ s'.IsSound

variable {P : Word → Prop} {s s' s'' : Cutter}

/-- Whether a sound cutting has come no further than another. -/
structure Stays (s s' : Cutter) : Prop where
  cursor : s'.cursor = s.cursor
  made : s'.made = s.made
  sound : s'.IsSound

theorem meets_dropStale_stays (sound : s.IsSound) : Meets (Stays s) (fun _ => True) s.dropStale := by
  rw [dropStale_eq]
  cases kept : s.keys.reverse.mapM s.keepSlot with
  | error failure => trivial
  | ok keys =>
    have length : keys.length = s.keys.length := by
      rw [← (mapM_eq_ok_iff.mp kept).length_eq, List.length_reverse]
    exact ⟨rfl, rfl, sound.nested, sound.goesOn, by simp [length, sound.level]⟩

theorem meets_dropStale_made (s : Cutter) : Meets (fun s' => s'.made = s.made) (fun _ => True) s.dropStale := by
  rw [dropStale_eq]
  exact meets_any.bind fun keys _ => rfl

theorem meets_dropKey_stays (sound : s.IsSound) : Meets (Stays s) (fun _ => True) s.dropKey := by
  have level := sound.level
  unfold dropKey
  split
  · rename_i key rest slots
    split
    · trivial
    · exact ⟨rfl, rfl, sound.nested, sound.goesOn, by simpa [slots] using level⟩
  · exact ⟨rfl, rfl, sound⟩

theorem meets_noteKey_stays (sound : s.IsSound) : Meets (Stays s) (fun _ => True) s.noteKey := by
  unfold noteKey
  split
  · refine (meets_dropKey_stays sound).bind fun dropped stays => ?_
    have level := stays.sound.level
    refine ⟨stays.cursor, stays.made, stays.sound.nested, stays.sound.goesOn, ?_⟩
    simp only [List.length_cons, List.length_drop]
    omega
  · exact ⟨rfl, rfl, sound⟩

theorem unwind_comes (block : P .blockEnd) {column : Int} (least : -1 ≤ column) (steps : Nat) (sound : s.IsSound) :
    Grows P s.made (unwind column steps s).made ∧ (unwind column steps s).IsSound := by
  induction steps generalizing s with
  | zero => exact ⟨.refl _, sound⟩
  | succ steps ih =>
    rw [unwind]
    split
    · rename_i further
      have nested := sound.nested
      have popped : Nested (s.outer.headD (-1)) (s.outer.drop 1) := by
        cases outer : s.outer with
        | nil =>
          rw [outer] at nested
          simp only [Nested] at nested
          simp only [Bool.and_eq_true, decide_eq_true_eq] at further
          omega
        | cons inner rest =>
          rw [outer] at nested
          exact nested.2.2
      have next : IsSound { s.addAt .blockEnd s.here with indent := s.outer.headD (-1), outer := s.outer.drop 1 } :=
        ⟨popped, sound.goesOn, sound.level⟩
      obtain ⟨grows, sound⟩ := ih next
      exact ⟨(Grows.push (.refl s.made) block).trans grows, sound⟩
    · exact ⟨.refl _, sound⟩

theorem indentTo_stays {column : Nat} (sound : s.IsSound) (indents : s.indentTo column = some s') : s.Stays s' := by
  unfold indentTo at indents
  split at indents
  · rename_i further
    obtain rfl := Option.some.inj indents
    exact ⟨rfl, rfl, ⟨further, sound.nested.least, sound.nested⟩, sound.goesOn, sound.level⟩
  · cases indents

theorem openBlock_comes {word : Word} (allowed : P word) (neutral : ∀ n, word.levelBehind n = n) (column : Nat)
    (sound : s.IsSound) : Grows P s.made (s.openBlock word column).made ∧ (s.openBlock word column).IsSound := by
  unfold openBlock
  split
  · rename_i opened indents
    have stays := indentTo_stays sound indents
    refine ⟨stays.made ▸ .push (.refl _) allowed, stays.sound.nested, stays.sound.goesOn, ?_⟩
    exact stays.sound.level.trans (congrArg (· + 1) (neutral _).symm)
  · exact ⟨.refl _, sound⟩

theorem insertAt_comes (word : Word) (late : word.isLate = true) (position : Nat) (place : Mark) (sound : s.IsSound) :
    Grows P s.made (s.insertAt position word place).made ∧ (s.insertAt position word place).IsSound :=
  ⟨.insert (.refl _) late _, sound.nested, sound.goesOn, sound.level.trans (congrArg (· + 1) (level_insertIdx late ..).symm)⟩

theorem settleKey_comes (key : PossibleKey) (sound : s.IsSound) :
    Grows P s.made (s.settleKey key).made ∧ (s.settleKey key).IsSound := by
  have forgotten : IsSound { s with keys := none :: s.keys.drop 1 } := by
    refine ⟨sound.nested, sound.goesOn, ?_⟩
    have level := sound.level
    simp only [List.length_cons, List.length_drop]
    omega
  obtain ⟨grows, keyed⟩ := insertAt_comes (P := P) .key rfl key.position key.place forgotten
  have keyed : (s.withKey key).IsSound := ⟨keyed.nested, keyed.goesOn, keyed.level⟩
  have grows : Grows P s.made (s.withKey key).made := grows
  rw [settleKey_eq]
  split
  · exact ⟨grows, keyed⟩
  · split
    · rename_i opened indents
      have stays := indentTo_stays keyed indents
      obtain ⟨later, sound⟩ := insertAt_comes (P := P) .blockMappingStart rfl key.position key.place stays.sound
      exact ⟨grows.trans (stays.made ▸ later), sound⟩
    · exact ⟨grows, keyed⟩

/-- Of what is made of the same tokens comes what comes of it. -/
theorem Stays.comes (stays : s.Stays s') (comes : Comes P s' s'') : Comes P s s'' :=
  ⟨stays.made ▸ comes.grows, comes.some, comes.sound⟩

/-- A token that opens and closes no bracket. -/
theorem take_comes {word : Word} (allowed : P word) (neutral : ∀ n, word.levelBehind n = n)
    (size : Nat) (keyAllowed : Bool)
    (sound : s.IsSound) : Comes P s ({ s with keyAllowed }.take word size) :=
  ⟨.push (.refl _) allowed, List.cons_ne_nil _ _,
    .inr ⟨sound.nested, sound.goesOn, sound.level.trans (congrArg (· + 1) (neutral _).symm)⟩⟩

section Taking

variable (others : ∀ word, word.isBorder = false → P word)

theorem unwindTo_comes (block : P .blockEnd) {column : Int} (least : -1 ≤ column) (sound : s.IsSound) :
    Grows P s.made (s.unwindTo column).made ∧ (s.unwindTo column).IsSound :=
  unwind_comes block least _ sound

include others

theorem meets_takeEnd_comes (end_ : P .streamEnd) (sound : s.IsSound) :
    Meets (Comes P s) (fun _ => True) s.takeEnd := by
  obtain ⟨grows, unwound⟩ := unwindTo_comes (others .blockEnd rfl) (Int.le_refl _) sound
  refine (meets_dropKey_stays unwound).bind fun dropped stays => ?_
  exact ⟨grows.trans (stays.made ▸ .push (.refl _) end_), List.cons_ne_nil _ _, .inl ⟨rfl, _, List.mem_cons_self, rfl⟩⟩

theorem meets_takeDirective_comes (directive : ∀ d, P (.directive d)) (sound : s.IsSound) :
    Meets (Comes P s) (fun _ => True) s.takeDirective := by
  obtain ⟨grows, unwound⟩ := unwindTo_comes (others .blockEnd rfl) (Int.le_refl _) sound
  refine (meets_dropKey_stays unwound).bind fun dropped stays => ?_
  refine (meets_directive_word dropped.cursor).bind fun (token, after) ⟨d, word⟩ => ?_
  refine ⟨grows.trans (stays.made ▸ .push (.refl _) (word ▸ directive d)), List.cons_ne_nil _ _,
    .inr ⟨stays.sound.nested, stays.sound.goesOn, ?_⟩⟩
  rw [add, level_cons, word]
  exact stays.sound.level

theorem meets_takeDocumentMark_comes {word : Word} (mark : P word)
    (neutral : ∀ n, word.levelBehind n = n) (sound : s.IsSound) :
    Meets (Comes P s) (fun _ => True) (s.takeDocumentMark word) := by
  obtain ⟨grows, unwound⟩ := unwindTo_comes (others .blockEnd rfl) (Int.le_refl _) sound
  refine (meets_dropKey_stays unwound).bind fun dropped stays => ?_
  have taken := stays.comes (take_comes mark neutral 3 false stays.sound)
  exact ⟨grows.trans taken.grows, taken.some, taken.sound⟩

theorem meets_takeOpening_comes {word : Word} (inside : word.isBorder = false) (opens : ∀ n, word.levelBehind n = n + 1)
    (sound : s.IsSound) : Meets (Comes P s) (fun _ => True) (s.takeOpening word) := by
  refine (meets_noteKey_stays sound).bind fun noted stays => ?_
  refine ⟨stays.made ▸ .push (.refl _) (others word inside), List.cons_ne_nil _ _,
    .inr ⟨stays.sound.nested, stays.sound.goesOn, ?_⟩⟩
  exact (congrArg (· + 1) stays.sound.level).trans (congrArg (· + 1) (opens _).symm)

theorem meets_takeClosing_comes {word : Word} (inside : word.isBorder = false) (closes : ∀ n, word.levelBehind n = n - 1)
    (sound : s.IsSound) : Meets (Comes P s) (fun _ => True) (s.takeClosing word) := by
  refine (meets_dropKey_stays sound).bind fun dropped stays => ?_
  refine ⟨stays.made ▸ .push (.refl _) (others word inside), List.cons_ne_nil _ _,
    .inr ⟨stays.sound.nested, stays.sound.goesOn, ?_⟩⟩
  have level := stays.sound.level
  change (if dropped.inFlow then dropped.keys.drop 1 else dropped.keys).length = word.levelBehind (Yaml.level dropped.made) + 1
  rw [closes]
  unfold inFlow
  split
  · rename_i more
    simp only [decide_eq_true_eq] at more
    rw [List.length_drop]
    omega
  · rename_i none
    simp only [decide_eq_true_eq] at none
    omega

theorem meets_takeComma_comes (sound : s.IsSound) : Meets (Comes P s) (fun _ => True) s.takeComma :=
  (meets_dropKey_stays sound).bind fun _ stays =>
    stays.comes (take_comes (others .flowEntry rfl) (fun _ => rfl) 1 true stays.sound)

/-- The block that a token outside brackets may start. -/
theorem openUnlessFlow_comes (word : Word) (inside : word.isBorder = false) (neutral : ∀ n, word.levelBehind n = n)
    (sound : s.IsSound) :
    Grows P s.made (if s.inFlow then s else s.openBlock word s.here.column).made ∧
      (if s.inFlow then s else s.openBlock word s.here.column).IsSound := by
  split
  · exact ⟨.refl _, sound⟩
  · exact openBlock_comes (others word inside) neutral _ sound

theorem meets_indicator_comes (word : Word) (inside : word.isBorder = false) (neutral : ∀ n, word.levelBehind n = n)
    (allows : Cutter → Bool) (sound : s.IsSound) :
    Meets (Comes P s) (fun _ => True)
      (s.dropKey >>= fun s' => .ok ({ s' with keyAllowed := allows s' }.take word 1)) :=
  (meets_dropKey_stays sound).bind fun s' stays =>
    stays.comes (take_comes (others word inside) neutral 1 (allows s') stays.sound)

theorem meets_takeDash_comes (sound : s.IsSound) : Meets (Comes P s) (fun _ => True) s.takeDash := by
  obtain ⟨grows, opened⟩ := openUnlessFlow_comes others .blockSequenceStart rfl (fun _ => rfl) sound
  unfold takeDash
  split
  · trivial
  · refine (meets_indicator_comes others .blockEntry rfl (fun _ => rfl) (fun _ => true) opened).mono
      fun taken comes => ?_
    exact ⟨grows.trans comes.grows, comes.some, comes.sound⟩

theorem meets_takeKeyMark_comes (sound : s.IsSound) : Meets (Comes P s) (fun _ => True) s.takeKeyMark := by
  obtain ⟨grows, opened⟩ := openUnlessFlow_comes others .blockMappingStart rfl (fun _ => rfl) sound
  unfold takeKeyMark
  split
  · trivial
  · refine (meets_indicator_comes others .key rfl (fun _ => rfl) (fun s => !s.inFlow) opened).mono
      fun taken comes => ?_
    exact ⟨grows.trans comes.grows, comes.some, comes.sound⟩

theorem meets_takeColon_comes (sound : s.IsSound) : Meets (Comes P s) (fun _ => True) s.takeColon := by
  unfold takeColon
  split
  · rename_i key rest _
    obtain ⟨grows, settled⟩ := settleKey_comes (P := P) key sound
    have taken : Comes P (s.settleKey key) ((s.settleKey key).take .value 1) :=
      take_comes (others .value rfl) (fun _ => rfl) 1 (s.settleKey key).keyAllowed settled
    exact ⟨grows.trans taken.grows, taken.some, taken.sound⟩
  · obtain ⟨grows, opened⟩ := openUnlessFlow_comes others .blockMappingStart rfl (fun _ => rfl) sound
    split
    · trivial
    · refine (meets_indicator_comes others .value rfl (fun _ => rfl) (fun s => !s.inFlow) opened).mono
        fun taken comes => ?_
      exact ⟨grows.trans comes.grows, comes.some, comes.sound⟩

theorem add_comes (token : Token) (alone : token.word.isAlone = true) (after : Cursor)
    (keyAllowed : Bool) (sound : s.IsSound) :
    Comes P s { s.add token with cursor := after, keyAllowed } := by
  obtain ⟨inside, neutral⟩ := Word.alone alone
  exact ⟨.push (.refl _) (others _ inside), List.cons_ne_nil _ _,
    .inr ⟨sound.nested, sound.goesOn, sound.level.trans (congrArg (· + 1) (neutral _).symm)⟩⟩

theorem meets_takeKeyStart_comes {read : Cursor → Except Failure (Token × Cursor)} (reads : ReadsAlone read)
    (sound : s.IsSound) : Meets (Comes P s) (fun _ => True) (s.takeKeyStart read) := by
  refine (meets_noteKey_stays sound).bind fun noted stays => ?_
  refine (reads noted.cursor).bind fun (token, after) alone => ?_
  exact stays.comes (add_comes others token alone after false stays.sound)

theorem meets_takeBlock_comes (sound : s.IsSound) : Meets (Comes P s) (fun _ => True) s.takeBlock := by
  refine (meets_dropKey_stays sound).bind fun dropped stays => ?_
  refine (block_alone dropped.indent dropped.cursor).bind fun (token, after) alone => ?_
  exact stays.comes (add_comes others token alone after true stays.sound)

theorem meets_takePlain_comes (sound : s.IsSound) : Meets (Comes P s) (fun _ => True) s.takePlain := by
  refine (meets_noteKey_stays sound).bind fun noted stays => ?_
  exact stays.comes (add_comes others (readPlain noted.inFlow (noted.indent + 1) noted.cursor).1 rfl _ _ stays.sound)

end Taking

theorem skipToToken_stays (steps : Nat) (s : Cutter) :
    (skipToToken steps s).made = s.made ∧ (s.IsSound → (skipToToken steps s).IsSound) := by
  induction steps generalizing s with
  | zero => exact ⟨rfl, id⟩
  | succ steps ih =>
    rw [skipToToken_succ]
    split
    · obtain ⟨made, sound⟩ :=
        ih { s with cursor := s.cursor.pastComment.lineBreak.2, keyAllowed := s.keyAllowed || !s.inFlow }
      exact ⟨made, fun known => sound ⟨known.nested, known.goesOn, known.level⟩⟩
    · exact ⟨rfl, fun known => ⟨known.nested, known.goesOn, known.level⟩⟩

theorem meets_takeToken_comes (others : ∀ word, word.isBorder = false → P word) (allows : s.ahead.cursor.Allows P)
    (sound : s.IsSound) : Meets (Comes P s) (fun _ => True) s.takeToken := by
  obtain ⟨made, stays⟩ := skipToToken_stays (s.cursor.rest.length + 1) s
  have sound := stays sound
  unfold ahead at allows
  unfold takeToken
  generalize skipToToken (s.cursor.rest.length + 1) s = t at *
  refine (meets_dropStale_stays sound).bind fun kept stays => ?_
  obtain ⟨grows, unwound⟩ := unwindTo_comes (others .blockEnd rfl) (Int.le_trans (by decide) (Int.natCast_nonneg _)) stays.sound
  have cursor := (unwindTo_stands kept.here.column kept.places_anywhere).cursor
  rw [stays.cursor] at cursor
  rw [← cursor] at allows
  have behind {trial : Except Failure Cutter}
      (meets : Meets (Comes P (kept.unwindTo kept.here.column)) (fun _ => True) trial) :
      Meets (Comes P s) (fun _ => True) trial :=
    meets.mono fun taken comes => ⟨made ▸ stays.made ▸ grows.trans comes.grows, comes.some, comes.sound⟩
  dsimp only
  generalize kept.unwindTo kept.here.column = u at *
  split
  · rename_i spent
    exact behind (meets_takeEnd_comes others (allows.last (by simpa using spent)) unwound)
  · split
    · rename_i here
      simp only [Bool.and_eq_true, beq_iff_eq] at here
      exact behind (meets_takeDirective_comes others (allows.directive here.2 here.1) unwound)
    · split
      · rename_i here
        simp only [Bool.and_eq_true, beq_iff_eq] at here
        exact behind (meets_takeDocumentMark_comes others (allows.opening here.1.2 here.1.1 here.2) (fun _ => rfl) unwound)
      · split
        · rename_i here
          simp only [Bool.and_eq_true, beq_iff_eq] at here
          exact behind (meets_takeDocumentMark_comes others (allows.closing here.1.2 here.1.1 here.2) (fun _ => rfl) unwound)
        · split
          · exact behind (meets_takeOpening_comes others rfl (fun _ => rfl) unwound)
          · exact behind (meets_takeOpening_comes others rfl (fun _ => rfl) unwound)
          · exact behind (meets_takeClosing_comes others rfl (fun _ => rfl) unwound)
          · exact behind (meets_takeClosing_comes others rfl (fun _ => rfl) unwound)
          · exact behind (meets_takeComma_comes others unwound)
          · exact behind (meets_takeKeyStart_comes others anchor_alone unwound)
          · exact behind (meets_takeKeyStart_comes others anchor_alone unwound)
          · exact behind (meets_takeKeyStart_comes others tag_alone unwound)
          · exact behind (meets_takeKeyStart_comes others quoted_alone unwound)
          · exact behind (meets_takeKeyStart_comes others quoted_alone unwound)
          · split
            · exact behind (meets_takeDash_comes others unwound)
            · split
              · exact behind (meets_takeKeyMark_comes others unwound)
              · split
                · exact behind (meets_takeColon_comes others unwound)
                · split
                  · exact behind (meets_takeBlock_comes others unwound)
                  · split
                    · exact behind (meets_takePlain_comes others unwound)
                    · trivial

/-- The next token, and which keys can still get their colon behind it. -/
def step (s : Cutter) : Except Failure Cutter := s.takeToken >>= dropStale

/-- Whether the cutting of a text goes on to the end, and the tokens that come of it. -/
inductive Runs : Cutter → List Token → Prop
  | last {s s' : Cutter} (taken : s.step = .ok s') (finished : s'.finished = true) : Runs s s'.made.reverse
  | more {s s' : Cutter} {tokens : List Token} (taken : s.step = .ok s') (goesOn : s'.finished = false)
    (rest : Runs s' tokens) : Runs s tokens

-- From here on only what is known of a taken token is used; unfolding all cases of it would take long.
attribute [local irreducible] takeToken

theorem meets_step_shorter (s : Cutter) : Meets s.IsShorter (fun _ => True) s.step :=
  ((meets_step s.places_anywhere).mono fun _ known => known.1).mono_fault fun _ _ => trivial

theorem meets_step_comes (others : ∀ word, word.isBorder = false → P word) (allows : s.ahead.cursor.Allows P)
    (sound : s.IsSound) : Meets (Comes P s) (fun _ => True) s.step := by
  refine (meets_takeToken_comes others allows sound).bind fun taken comes => ?_
  rcases comes.sound with ended | sound
  · rw [dropStale_eq]
    exact meets_any.bind fun keys _ => ⟨comes.grows, comes.some, .inl ⟨ended.finished, ended.last⟩⟩
  · refine (meets_dropStale_stays sound).mono fun kept stays => ?_
    refine ⟨?_, ?_, .inr stays.sound⟩ <;> rw [stays.made]
    · exact comes.grows
    · exact comes.some

/-- With more steps than characters are left, a cutting that meets no failure runs to the end. -/
theorem run_eq_iff {steps : Nat} (enough : s.cursor.rest.length < steps) {tokens : List Token} :
    run steps s = ⟨tokens, none⟩ ↔ Runs s tokens := by
  constructor
  · intro ended
    induction steps generalizing s with
    | zero => omega
    | succ steps ih =>
      rw [run_succ, ← step] at ended
      cases taken : s.step with
      | error failure => simp [taken] at ended
      | ok s' =>
        rw [taken] at ended
        dsimp only at ended
        split at ended
        · rename_i finished
          cases ended
          exact .last taken finished
        · rename_i goesOn
          have shorter := (((meets_step_shorter s).of_ok taken).resolve_left goesOn).2
          exact .more taken (by simpa using goesOn) (ih (by omega) ended)
  · intro runs
    induction runs generalizing steps with
    | @last s s' taken finished =>
      obtain ⟨steps, rfl⟩ := Nat.exists_eq_succ_of_ne_zero (Nat.ne_zero_of_lt enough)
      rw [run_succ, ← step]
      simp [taken, finished]
    | @more s s' tokens taken goesOn rest ih =>
      obtain ⟨steps, rfl⟩ := Nat.exists_eq_succ_of_ne_zero (Nat.ne_zero_of_lt enough)
      have shorter := (((meets_step_shorter s).of_ok taken).resolve_left (by simp [goesOn])).2
      rw [run_succ, ← step]
      simp only [taken, goesOn]
      exact ih (by omega)

theorem ahead_follows (s : Cutter) : s.cursor.Follows s.ahead.cursor :=
  (skipToToken_follows _ s.places_anywhere).1

/-- The tokens that come of a sound cutting, if at every place to come only the marks that are allowed stand. -/
theorem Runs.grows {tokens : List Token} (runs : Runs s tokens) (others : ∀ word, word.isBorder = false → P word)
    (allows : ∀ d, s.cursor.Follows d → d.Allows P) (sound : s.IsSound) : Grows P s.made tokens.reverse := by
  induction runs with
  | @last s s' taken finished =>
    rw [List.reverse_reverse]
    exact ((meets_step_comes others (allows _ s.ahead_follows) sound).of_ok taken).grows
  | @more s s' tokens taken goesOn rest ih =>
    have comes := (meets_step_comes others (allows _ s.ahead_follows) sound).of_ok taken
    have follows := (((meets_step_shorter s).of_ok taken).resolve_left (by simp [goesOn])).1
    have sound' := comes.sound.resolve_left fun ended => by simp [ended.finished] at goesOn
    exact comes.grows.trans (ih (fun d later => allows d (follows.trans later)) sound')

/-- Among the tokens of a text is one for its end. -/
theorem Runs.exists_streamEnd {tokens : List Token} (runs : Runs s tokens) (sound : s.IsSound) :
    ∃ token ∈ tokens, token.word = .streamEnd := by
  induction runs with
  | @last s s' taken finished =>
    have comes := (meets_step_comes (fun _ _ => trivial) s.ahead.cursor.allows_any sound).of_ok taken
    rcases comes.sound with ended | sound
    · obtain ⟨token, member, word⟩ := ended.last
      exact ⟨token, List.mem_reverse.mpr member, word⟩
    · simp [sound.goesOn] at finished
  | @more s s' tokens taken goesOn rest ih =>
    have comes := (meets_step_comes (fun _ _ => trivial) s.ahead.cursor.allows_any sound).of_ok taken
    exact ih (comes.sound.resolve_left fun ended => by simp [ended.finished] at goesOn)

end Cutter

end AccessPolicy.Yaml
