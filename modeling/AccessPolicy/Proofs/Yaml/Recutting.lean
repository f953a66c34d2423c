import AccessPolicy.Proofs.Yaml.Behind
import AccessPolicy.Proofs.Yaml.Rereading
import Mathlib.Data.List.Forall2

namespace AccessPolicy.Yaml

/-- What may start a key when more text follows. -/
def PossibleKey.before (more : List Char) (key : PossibleKey) : PossibleKey := { key with place := key.place.before more }

theorem Cursor.IsHead.pastComment {stop more lead : List Char} {c d : Cursor} (fence : IsFence stop more)
    (head : Cursor.IsHead stop more lead c d) : Cursor.Onward stop more lead.length d.pastComment c.pastComment := by
  obtain ⟨lead₁, few₁, head₁⟩ := head.skip_onward fence (p := (· == ' ')) ⟨rfl, rfl, rfl⟩ rfl
  unfold Cursor.pastComment
  rw [head₁.kind_eq fence (· == '#') ⟨rfl, rfl, rfl⟩]
  split
  · rename_i hash
    have inside := head₁.inside_of_kind fence (p := (· == '#')) ⟨rfl, rfl, rfl⟩ hash
    exact (head₁.skip_onLine inside rfl).onward.mono few₁
  · exact head₁.onward.mono few₁

namespace Cutter

theorem skipToToken_succ (steps : Nat) (s : Cutter) :
    skipToToken (steps + 1) s =
      if isBreak s.cursor.pastComment.next then
        skipToToken steps { s with cursor := s.cursor.pastComment.lineBreak.2, keyAllowed := s.keyAllowed || !s.inFlow }
      else { s with cursor := s.cursor.pastComment } := rfl

/-- Whether the cutting of a text that is cut off has come as far as that of the whole: so many characters stand before the
place where it is cut off. -/
structure IsHead (stop more lead : List Char) (t s : Cutter) : Prop where
  cursor : Cursor.IsHead stop more lead t.cursor s.cursor
  made : t.made.map (·.word) = s.made.map (·.word)
  indent : t.indent = s.indent
  outer : t.outer = s.outer
  keys : s.keys = t.keys.map (Option.map (·.before more))
  keyAllowed : t.keyAllowed = s.keyAllowed
  goesOn : t.finished = false ∧ s.finished = false

/-- The same, with at most so many characters before the place where the text is cut off. -/
def Onward (stop more : List Char) (n : Nat) (s t : Cutter) : Prop :=
  ∃ lead, lead.length ≤ n ∧ IsHead stop more lead t s

variable {stop more lead : List Char} {s t : Cutter} {n m : Nat}

theorem IsHead.onward (head : IsHead stop more lead t s) : Onward stop more lead.length s t :=
  ⟨lead, Nat.le_refl _, head⟩

namespace IsHead

theorem here (fence : IsFence stop more) (head : IsHead stop more lead t s) : s.here = t.here.before more :=
  head.cursor.mark fence.ends

theorem column (fence : IsFence stop more) (head : IsHead stop more lead t s) : s.here.column = t.here.column := by
  rw [head.here fence]
  rfl

theorem inFlow (head : IsHead stop more lead t s) : s.inFlow = t.inFlow := by simp [Cutter.inFlow, head.keys]

theorem length_made (head : IsHead stop more lead t s) : t.made.length = s.made.length := by
  simpa using congrArg List.length head.made

theorem allowing (head : IsHead stop more lead t s) {allowed allowed' : Bool} (same : allowed' = allowed) :
    IsHead stop more lead { t with keyAllowed := allowed' } { s with keyAllowed := allowed } :=
  { head with keyAllowed := same }

theorem add (head : IsHead stop more lead t s) {token token' : Token} (same : token'.word = token.word) :
    IsHead stop more lead (t.add token') (s.add token) :=
  { head with made := by simp [Cutter.add, head.made, same] }

theorem addAt (head : IsHead stop more lead t s) (word : Word) (place place' : Mark) :
    IsHead stop more lead (t.addAt word place') (s.addAt word place) :=
  head.add rfl

theorem insertAt (head : IsHead stop more lead t s) (position : Nat) (word : Word) (place place' : Mark) :
    IsHead stop more lead (t.insertAt position word place') (s.insertAt position word place) := by
  refine { head with made := ?_ }
  simp only [Cutter.insertAt, List.map_insertIdx, head.made, head.length_made]

theorem isStale (fence : IsFence stop more) (head : IsHead stop more lead t s) (key : PossibleKey) :
    s.isStale (key.before more) = t.isStale key := by
  unfold Cutter.isStale
  rw [head.here fence, Bool.eq_iff_iff]
  simp [PossibleKey.before, Mark.before, Nat.add_sub_add_right]

theorem dropStale (fence : IsFence stop more) (head : IsHead stop more lead t s) :
    Carries (fun s' t' => IsHead stop more lead t' s') s.dropStale t.dropStale := by
  have each : List.Forall₂
      (fun slot slot' => Carries (fun x y => x = y.map (·.before more)) (s.keepSlot slot) (t.keepSlot slot'))
      s.keys.reverse t.keys.reverse := by
    rw [head.keys, ← List.map_reverse, List.forall₂_map_left_iff]
    refine List.forall₂_same.mpr fun slot _ => ?_
    cases slot with
    | none => exact carries_ok rfl
    | some key =>
      unfold keepSlot
      dsimp only [Option.map_some]
      rw [head.isStale fence]
      split
      · change Carries _ (if key.required then _ else _) _
        split
        · exact carries_error
        · exact carries_ok rfl
      · exact carries_ok rfl
  rw [dropStale_eq, dropStale_eq]
  refine (carries_mapM each).bind fun slots slots' kept => carries_ok { head with keys := ?_ }
  have same : slots = slots'.map (Option.map (·.before more)) :=
    List.forall₂_eq_eq_eq ▸ List.forall₂_map_right_iff.mpr kept
  simp [same]

theorem dropKey (head : IsHead stop more lead t s) :
    Carries (fun s' t' => IsHead stop more lead t' s') s.dropKey t.dropKey := by
  have keys := head.keys
  unfold Cutter.dropKey
  cases slots : t.keys with
  | nil =>
    rw [slots] at keys
    rw [keys]
    exact carries_ok head
  | cons slot rest =>
    rw [slots] at keys
    rw [keys]
    cases slot with
    | none => exact carries_ok head
    | some key =>
      change Carries _ (if key.required then _ else _) _
      dsimp only
      split
      · exact carries_error
      · exact carries_ok { head with keys := by simp }

theorem noteKey (fence : IsFence stop more) (head : IsHead stop more lead t s) :
    Carries (fun s' t' => IsHead stop more lead t' s') s.noteKey t.noteKey := by
  unfold Cutter.noteKey
  rw [head.keyAllowed, head.inFlow, head.indent, head.column fence]
  split
  · refine head.dropKey.bind fun s' t' dropped => carries_ok { dropped with keys := ?_ }
    simp [dropped.keys, dropped.length_made, dropped.here fence, PossibleKey.before]
  · exact carries_ok head

theorem unwind (head : IsHead stop more lead t s) (column : Int) (steps : Nat) :
    IsHead stop more lead (unwind column steps t) (unwind column steps s) := by
  induction steps generalizing s t with
  | zero => exact head
  | succ steps ih =>
    rw [Cutter.unwind, Cutter.unwind, head.inFlow, head.indent]
    split
    · exact ih { head.addAt .blockEnd s.here t.here with indent := by rw [head.outer], outer := by rw [head.outer] }
    · exact head

theorem unwindTo (head : IsHead stop more lead t s) (column : Int) :
    IsHead stop more lead (t.unwindTo column) (s.unwindTo column) := by
  unfold Cutter.unwindTo
  rw [head.outer]
  exact head.unwind column _

theorem indentTo (head : IsHead stop more lead t s) (column : Nat) :
    s.indentTo column = none ∧ t.indentTo column = none ∨
      ∃ s' t', s.indentTo column = some s' ∧ t.indentTo column = some t' ∧ IsHead stop more lead t' s' := by
  unfold Cutter.indentTo
  rw [head.indent]
  split
  · exact .inr ⟨_, _, rfl, rfl, { head with indent := rfl, outer := by rw [head.outer] }⟩
  · exact .inl ⟨rfl, rfl⟩

theorem openBlock (head : IsHead stop more lead t s) (word : Word) (column : Nat) :
    IsHead stop more lead (t.openBlock word column) (s.openBlock word column) := by
  unfold Cutter.openBlock
  rcases head.indentTo column with ⟨whole, part⟩ | ⟨s', t', whole, part, opened⟩
  · rw [whole, part]
    exact head
  · rw [whole, part]
    exact opened.addAt word s'.here t'.here

theorem withKey (head : IsHead stop more lead t s) (key : PossibleKey) :
    IsHead stop more lead (t.withKey key) (s.withKey (key.before more)) := by
  have forgotten : IsHead stop more lead { t with keys := none :: t.keys.drop 1 } { s with keys := none :: s.keys.drop 1 } :=
    { head with keys := by simp [head.keys] }
  exact { forgotten.insertAt key.position .key (key.place.before more) key.place with keyAllowed := rfl }

theorem settleKey (head : IsHead stop more lead t s) (key : PossibleKey) :
    IsHead stop more lead (t.settleKey key) (s.settleKey (key.before more)) := by
  have keyed := head.withKey key
  rw [settleKey_eq, settleKey_eq, keyed.inFlow]
  split
  · exact keyed
  · have column : (key.before more).place.column = key.place.column := rfl
    rw [column]
    rcases keyed.indentTo key.place.column with ⟨whole, part⟩ | ⟨s', t', whole, part, opened⟩
    · rw [whole, part]
      exact keyed
    · rw [whole, part]
      exact opened.insertAt key.position .blockMappingStart (key.place.before more) key.place

end IsHead

section Taking

variable {ch : Char}

/-- A token that takes a character. -/
theorem IsHead.take_one (head : IsHead stop more (ch :: lead) t s) (word : Word) :
    Onward stop more (ch :: lead).length (s.take word 1) (t.take word 1) := by
  have same : (⟨word, t.here, t.cursor.advance.mark⟩ : Token).word =
      (⟨word, s.here, s.cursor.advance.mark⟩ : Token).word := rfl
  exact ⟨lead, by simp, { head.add same with cursor := head.cursor.advance }⟩

theorem carries_takeOpening (fence : IsFence stop more) (head : IsHead stop more (ch :: lead) t s) (word : Word) :
    Carries (Onward stop more (ch :: lead).length) (s.takeOpening word) (t.takeOpening word) := by
  refine (head.noteKey fence).bind fun s' t' noted => carries_ok ?_
  have opened : IsHead stop more (ch :: lead) { t' with keys := none :: t'.keys, keyAllowed := true }
      { s' with keys := none :: s'.keys, keyAllowed := true } := { noted with keys := by simp [noted.keys], keyAllowed := rfl }
  exact opened.take_one word

theorem carries_takeClosing (head : IsHead stop more (ch :: lead) t s) (word : Word) :
    Carries (Onward stop more (ch :: lead).length) (s.takeClosing word) (t.takeClosing word) := by
  refine head.dropKey.bind fun s' t' dropped => carries_ok ?_
  have closed : IsHead stop more (ch :: lead)
      { t' with keys := if t'.inFlow then t'.keys.drop 1 else t'.keys, keyAllowed := false }
      { s' with keys := if s'.inFlow then s'.keys.drop 1 else s'.keys, keyAllowed := false } := by
    refine { dropped with keys := ?_, keyAllowed := rfl }
    dsimp only
    rw [dropped.inFlow, dropped.keys]
    split <;> simp
  exact closed.take_one word

theorem carries_takeComma (head : IsHead stop more (ch :: lead) t s) :
    Carries (Onward stop more (ch :: lead).length) s.takeComma t.takeComma := by
  refine head.dropKey.bind fun s' t' dropped => carries_ok ?_
  exact (dropped.allowing rfl).take_one .flowEntry

/-- The block that a token outside brackets may start. -/
theorem IsHead.openUnlessFlow (fence : IsFence stop more) (head : IsHead stop more lead t s) (word : Word) :
    IsHead stop more lead (if t.inFlow then t else t.openBlock word t.here.column)
      (if s.inFlow then s else s.openBlock word s.here.column) := by
  rw [head.inFlow, head.column fence]
  split
  · exact head
  · exact head.openBlock word _

theorem carries_takeDash (fence : IsFence stop more) (head : IsHead stop more (ch :: lead) t s) :
    Carries (Onward stop more (ch :: lead).length) s.takeDash t.takeDash := by
  have opened := head.openUnlessFlow fence .blockSequenceStart
  unfold takeDash
  dsimp only
  generalize (if s.inFlow then s else s.openBlock .blockSequenceStart s.here.column) = s₁ at opened ⊢
  generalize (if t.inFlow then t else t.openBlock .blockSequenceStart t.here.column) = t₁ at opened ⊢
  rw [head.inFlow, head.keyAllowed]
  split
  · exact carries_error
  · refine opened.dropKey.bind fun s' t' dropped => carries_ok ?_
    exact (dropped.allowing rfl).take_one .blockEntry

/-- What ends a key or a value mark that may open a block. -/
theorem IsHead.take_indicator (head : IsHead stop more (ch :: lead) t s) (word : Word) :
    Carries (Onward stop more (ch :: lead).length)
      (s.dropKey >>= fun s' => .ok ({ s' with keyAllowed := !s'.inFlow }.take word 1))
      (t.dropKey >>= fun t' => .ok ({ t' with keyAllowed := !t'.inFlow }.take word 1)) := by
  refine head.dropKey.bind fun s' t' dropped => carries_ok ?_
  exact (dropped.allowing (congrArg _ dropped.inFlow.symm)).take_one word

theorem carries_takeKeyMark (fence : IsFence stop more) (head : IsHead stop more (ch :: lead) t s) :
    Carries (Onward stop more (ch :: lead).length) s.takeKeyMark t.takeKeyMark := by
  have opened := head.openUnlessFlow fence .blockMappingStart
  unfold takeKeyMark
  dsimp only
  generalize (if s.inFlow then s else s.openBlock .blockMappingStart s.here.column) = s₁ at opened ⊢
  generalize (if t.inFlow then t else t.openBlock .blockMappingStart t.here.column) = t₁ at opened ⊢
  rw [head.inFlow, head.keyAllowed]
  split
  · exact carries_error
  · exact opened.take_indicator .key

theorem carries_takeColon (fence : IsFence stop more) (head : IsHead stop more (ch :: lead) t s) :
    Carries (Onward stop more (ch :: lead).length) s.takeColon t.takeColon := by
  have opened := head.openUnlessFlow fence .blockMappingStart
  have keys := head.keys
  have alone : Carries (Onward stop more (ch :: lead).length)
      (if !s.inFlow && !s.keyAllowed then s.refuse .misplacedValue
        else (if s.inFlow then s else s.openBlock .blockMappingStart s.here.column).dropKey >>=
          fun s' => .ok ({ s' with keyAllowed := !s'.inFlow }.take .value 1))
      (if !t.inFlow && !t.keyAllowed then t.refuse .misplacedValue
        else (if t.inFlow then t else t.openBlock .blockMappingStart t.here.column).dropKey >>=
          fun t' => .ok ({ t' with keyAllowed := !t'.inFlow }.take .value 1)) := by
    generalize (if s.inFlow then s else s.openBlock .blockMappingStart s.here.column) = s₁ at opened ⊢
    generalize (if t.inFlow then t else t.openBlock .blockMappingStart t.here.column) = t₁ at opened ⊢
    rw [head.inFlow, head.keyAllowed]
    split
    · exact carries_error
    · exact opened.take_indicator .value
  unfold takeColon
  cases slots : t.keys with
  | nil =>
    rw [slots] at keys
    rw [keys]
    exact alone
  | cons slot rest =>
    rw [slots] at keys
    rw [keys]
    cases slot with
    | none => exact alone
    | some key => exact carries_ok ((head.settleKey key).take_one .value)

theorem carries_takeKeyStart (fence : IsFence stop more) (head : IsHead stop more (ch :: lead) t s)
    {read : Cursor → Except Failure (Token × Cursor)}
    (rereads : ∀ {c d : Cursor}, Cursor.IsHead stop more (ch :: lead) c d →
      RereadsWord (Cursor.OnLine stop more (ch :: lead).length) (read d) (read c)) :
    Carries (Onward stop more (ch :: lead).length) (s.takeKeyStart read) (t.takeKeyStart read) := by
  refine (head.noteKey fence).bind fun s' t' noted => ?_
  refine (rereads noted.cursor).bind fun (token, d) (token', c) ⟨same, lead₁, _, few, cursor⟩ => ?_
  exact carries_ok ⟨lead₁, few, { noted.add same with cursor, keyAllowed := rfl }⟩

theorem carries_takeBlock (fence : IsFence stop more) (head : IsHead stop more (ch :: lead) t s) (inLine : ch ≠ '\n') :
    Carries (Onward stop more (ch :: lead).length) s.takeBlock t.takeBlock := by
  refine head.dropKey.bind fun s' t' dropped => ?_
  rw [dropped.indent]
  refine (rereads_block fence dropped.cursor (List.cons_ne_nil _ _) (dropped.cursor.next_cons.1 ▸ inLine) _).bind
    fun (token, d) (token', c) ⟨same, lead₁, few, cursor⟩ => ?_
  exact carries_ok ⟨lead₁, few, { dropped.add same with cursor, keyAllowed := rfl }⟩

theorem carries_takePlain (fence : IsFence stop more) (head : IsHead stop more (ch :: lead) t s) :
    Carries (Onward stop more (ch :: lead).length) s.takePlain t.takePlain := by
  refine (head.noteKey fence).bind fun s' t' noted => ?_
  dsimp only
  rw [noted.indent, noted.inFlow]
  obtain ⟨same, broke, lead₁, few, cursor⟩ :=
    readPlain_eq fence t'.inFlow (s'.indent + 1) noted.cursor (List.cons_ne_nil _ _)
  exact carries_ok ⟨lead₁, few, { noted.add same with cursor, keyAllowed := broke }⟩

theorem carries_takeDirective (fence : IsFence stop more)
    (head : IsHead stop more (ch :: lead) t s) (inLine : ch ≠ '\n') :
    Carries (Onward stop more (ch :: lead).length) s.takeDirective t.takeDirective := by
  refine (head.unwindTo (-1)).dropKey.bind fun s' t' dropped => ?_
  refine (rereads_directive fence.ends dropped.cursor (List.cons_ne_nil _ _) (dropped.cursor.next_cons.1 ▸ inLine)).bind
    fun (token, d) (token', c) ⟨same, ⟨lead₁, few, cursor⟩, _⟩ => ?_
  exact carries_ok ⟨lead₁, few, { dropped.add same with cursor, keyAllowed := rfl }⟩

theorem carries_takeDocumentMark (head : IsHead stop more lead t s) (within : 3 ≤ lead.length) (word : Word) :
    Carries (Onward stop more lead.length) (s.takeDocumentMark word) (t.takeDocumentMark word) := by
  refine (head.unwindTo (-1)).dropKey.bind fun s' t' dropped => carries_ok ?_
  refine ⟨lead.drop 3, by simp, { (dropped.allowing rfl).add rfl with cursor := dropped.cursor.advanceBy within }⟩

end Taking

/-- At the next token. -/
def ahead (s : Cutter) : Cutter := skipToToken (s.cursor.rest.length + 1) s

/-- Which token is taken depends only on what is there at the next one. -/
theorem takeToken_eq_of_ahead {s s' : Cutter} (same : s.ahead = s'.ahead) : s.takeToken = s'.takeToken := by
  unfold takeToken
  unfold ahead at same
  rw [same]

theorem skipToToken_onward (fence : IsFence stop more) (head : IsHead stop more lead t s) (enough : lead.length < n)
    (enough' : lead.length < m) :
    ∃ lead', lead'.length ≤ lead.length ∧ IsHead stop more lead' (skipToToken m t) (skipToToken n s) ∧
      isBreak (skipToToken m t).cursor.next = false := by
  induction n generalizing m lead s t with
  | zero => omega
  | succ n ih =>
    obtain ⟨m, rfl⟩ : ∃ k, m = k + 1 := Nat.exists_eq_succ_of_ne_zero (by omega)
    obtain ⟨lead₁, few₁, head₁⟩ := head.cursor.pastComment fence
    rw [skipToToken_succ, skipToToken_succ, head₁.kind_eq fence isBreak ⟨rfl, rfl, rfl⟩, head.keyAllowed, head.inFlow]
    split
    · rename_i breaks
      have inside := head₁.inside_of_kind fence ⟨rfl, rfl, rfl⟩ breaks
      have left := List.length_pos_iff.mpr inside
      obtain ⟨_, lead₂, few₂, head₂⟩ := head₁.lineBreak inside breaks
      have broken : IsHead stop more lead₂
          { t with cursor := t.cursor.pastComment.lineBreak.2, keyAllowed := s.keyAllowed || !t.inFlow }
          { s with cursor := s.cursor.pastComment.lineBreak.2, keyAllowed := s.keyAllowed || !t.inFlow } :=
        { head with cursor := head₂, keyAllowed := rfl }
      obtain ⟨lead₃, few₃, head₃, stops⟩ := ih broken (m := m) (by omega) (by omega)
      exact ⟨lead₃, by omega, head₃, stops⟩
    · rename_i noBreak
      exact ⟨lead₁, few₁, { head with cursor := head₁, keyAllowed := rfl }, by simpa using noBreak⟩

theorem IsHead.ahead (fence : IsFence stop more) (head : IsHead stop more lead t s) :
    ∃ lead', lead'.length ≤ lead.length ∧ IsHead stop more lead' t.ahead s.ahead ∧ isBreak t.ahead.cursor.next = false := by
  refine skipToToken_onward fence head ?_ ?_
  · rw [head.cursor.whole, List.length_append]
    omega
  · rw [head.cursor.part, List.length_append]
    omega

/-- A token that stands before the place where the text is cut off is taken as in the whole. -/
theorem carries_takeToken (fence : IsFence stop more) {ch : Char} (head : IsHead stop more (ch :: lead) t.ahead s.ahead)
    (inLine : ch ≠ '\n') : Carries (Onward stop more (ch :: lead).length) s.takeToken t.takeToken := by
  unfold takeToken
  refine (head.dropStale fence).bind fun s' t' kept => ?_
  have unwound := kept.unwindTo t'.here.column
  dsimp only
  rw [kept.column fence]
  generalize s'.unwindTo t'.here.column = s₁ at unwound ⊢
  generalize t'.unwindTo t'.here.column = t₁ at unwound ⊢
  obtain ⟨nextPart, nextWhole⟩ := unwound.cursor.next_cons
  have left : s₁.cursor.rest.isEmpty = false ∧ t₁.cursor.rest.isEmpty = false := by
    rw [unwound.cursor.whole, unwound.cursor.part]
    exact ⟨rfl, rfl⟩
  have second := unwound.cursor.peek_one (List.cons_ne_nil _ _) (nextPart ▸ inLine)
  have within := unwound.cursor.length_of_atDocumentMark (List.cons_ne_nil _ _)
  have starts : s₁.plainStarts = t₁.plainStarts := by
    unfold plainStarts
    rw [nextWhole, nextPart, second, unwound.inFlow]
  rw [left.1, left.2, nextWhole, nextPart, unwound.cursor.column, unwound.cursor.atDocumentMark_eq (List.cons_ne_nil _ _),
    second, unwound.inFlow, starts]
  simp only [Bool.false_eq_true, if_false]
  split
  · exact carries_takeDirective fence unwound inLine
  · split
    · rename_i marked
      exact carries_takeDocumentMark unwound (Nat.le_of_lt (within (by simp_all))) _
    · split
      · rename_i marked
        exact carries_takeDocumentMark unwound (Nat.le_of_lt (within (by simp_all))) _
      · split
        · exact carries_takeOpening fence unwound _
        · exact carries_takeOpening fence unwound _
        · exact carries_takeClosing unwound _
        · exact carries_takeClosing unwound _
        · exact carries_takeComma unwound
        · exact carries_takeKeyStart fence unwound fun head =>
            rereads_anchor head (List.cons_ne_nil _ _) (by simp [head.next_cons])
        · exact carries_takeKeyStart fence unwound fun head =>
            rereads_anchor head (List.cons_ne_nil _ _) (by simp [head.next_cons])
        · exact carries_takeKeyStart fence unwound fun head =>
            rereads_tag fence.ends head (List.cons_ne_nil _ _) head.next_cons.1
        · exact carries_takeKeyStart fence unwound fun head =>
            rereads_quoted fence head (List.cons_ne_nil _ _) (.inl head.next_cons.1)
        · exact carries_takeKeyStart fence unwound fun head =>
            rereads_quoted fence head (List.cons_ne_nil _ _) (.inr head.next_cons.1)
        · split
          · exact carries_takeDash fence unwound
          · split
            · exact carries_takeKeyMark fence unwound
            · split
              · exact carries_takeColon fence unwound
              · split
                · exact carries_takeBlock fence unwound inLine
                · split
                  · exact carries_takePlain fence unwound
                  · exact carries_error

end Cutter

end AccessPolicy.Yaml
