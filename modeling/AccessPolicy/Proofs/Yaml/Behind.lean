import AccessPolicy.Proofs.Trials
import AccessPolicy.Proofs.Yaml.Padding

namespace AccessPolicy.Yaml

/-- The place among the tokens of what may start a key, behind so many more. -/
def PossibleKey.behind (n : Nat) (key : PossibleKey) : PossibleKey := { key with position := key.position + n }

theorem insertIdx_append {α : Type} {xs : List α} {i : Nat} (within : i ≤ xs.length) (x : α) (ys : List α) :
    (xs ++ ys).insertIdx i x = xs.insertIdx i x ++ ys := by
  induction xs generalizing i with
  | nil =>
    obtain rfl := Nat.le_zero.mp within
    simp
  | cons y xs ih =>
    cases i with
    | zero => simp
    | succ i => simp [ih (Nat.le_of_succ_le_succ within)]

namespace Cutter

/-- What is kept of the place for a key. -/
def keepSlot (s : Cutter) : Option PossibleKey → Except Failure (Option PossibleKey)
  | none => .ok none
  | some key => if s.isStale key then if key.required then s.keyFault key else .ok none else .ok (some key)

theorem dropStale_eq (s : Cutter) :
    s.dropStale = s.keys.reverse.mapM s.keepSlot >>= fun keys => .ok { s with keys := keys.reverse } := rfl

/-- The cutting with the token for a key put where it belongs. -/
def withKey (s : Cutter) (key : PossibleKey) : Cutter :=
  { insertAt { s with keys := none :: s.keys.drop 1 } key.position .key key.place with keyAllowed := false }

theorem settleKey_eq (s : Cutter) (key : PossibleKey) :
    s.settleKey key =
      if (s.withKey key).inFlow then s.withKey key
      else match (s.withKey key).indentTo key.place.column with
        | some t => t.insertAt key.position .blockMappingStart key.place
        | none => s.withKey key := rfl

/-- The cutting behind older tokens, the last one first. -/
def behind (old : List Token) (s : Cutter) : Cutter :=
  { s with made := s.made ++ old, keys := s.keys.map (Option.map (·.behind old.length)) }

variable (old : List Token) (s : Cutter)

@[simp] theorem cursor_behind : (s.behind old).cursor = s.cursor := rfl

@[simp] theorem here_behind : (s.behind old).here = s.here := rfl

@[simp] theorem finished_behind : (s.behind old).finished = s.finished := rfl

@[simp] theorem inFlow_behind : (s.behind old).inFlow = s.inFlow := by simp [inFlow, behind]

@[simp] theorem indent_behind : (s.behind old).indent = s.indent := rfl

@[simp] theorem keyAllowed_behind : (s.behind old).keyAllowed = s.keyAllowed := rfl

@[simp] theorem plainStarts_behind : (s.behind old).plainStarts = s.plainStarts := by simp [plainStarts]

theorem insertAt_behind (position : Nat) (word : Word) (place : Mark) :
    (s.behind old).insertAt (position + old.length) word place = (s.insertAt position word place).behind old := by
  simp only [insertAt, behind, List.length_append, Nat.add_sub_add_right]
  rw [insertIdx_append (Nat.sub_le _ _)]

theorem keepSlot_behind (slot : Option PossibleKey) :
    (s.behind old).keepSlot (slot.map (PossibleKey.behind old.length)) =
      (s.keepSlot slot).map (Option.map (PossibleKey.behind old.length)) := by
  cases slot with
  | none => rfl
  | some key =>
    unfold keepSlot
    dsimp only [Option.map_some]
    have stale : (s.behind old).isStale (key.behind old.length) = s.isStale key := rfl
    have required : (key.behind old.length).required = key.required := rfl
    rw [stale, required]
    split
    · split <;> rfl
    · rfl

theorem dropStale_behind : (s.behind old).dropStale = s.dropStale.map (behind old) := by
  have slots : (s.behind old).keys.reverse = s.keys.reverse.map (Option.map (PossibleKey.behind old.length)) := by
    simp [behind]
  have each : (s.behind old).keepSlot ∘ Option.map (PossibleKey.behind old.length) =
      fun slot => (s.keepSlot slot).map (Option.map (PossibleKey.behind old.length)) := funext (s.keepSlot_behind old)
  rw [dropStale_eq, dropStale_eq, slots, List.mapM_map, each, mapM_map_result]
  cases s.keys.reverse.mapM s.keepSlot with
  | error failure => rfl
  | ok keys => simp [Except.map, bind, Except.bind, behind]

theorem dropKey_behind : (s.behind old).dropKey = s.dropKey.map (behind old) := by
  unfold dropKey
  cases slots : s.keys with
  | nil => simp [behind, slots, Except.map]
  | cons slot rest =>
    cases slot with
    | none => simp [behind, slots, Except.map]
    | some key =>
      simp only [behind, slots, List.map_cons, Option.map_some]
      by_cases required : key.required = true
      · simp [PossibleKey.behind, required, keyFault, tokenFault, here, Except.map]
      · simp only [PossibleKey.behind, required, if_false, Bool.false_eq_true, Except.map]
        rfl

theorem noteKey_behind : (s.behind old).noteKey = s.noteKey.map (behind old) := by
  unfold noteKey
  rw [dropKey_behind]
  simp only [keyAllowed_behind, inFlow_behind, indent_behind, here_behind]
  split
  · cases s.dropKey with
    | error failure => rfl
    | ok dropped => simp [Except.map, bind, Except.bind, pure, Except.pure, behind, PossibleKey.behind, here]
  · rfl

theorem unwind_behind (column : Int) (steps : Nat) :
    unwind column steps (s.behind old) = (unwind column steps s).behind old := by
  induction steps generalizing s with
  | zero => rfl
  | succ steps ih =>
    rw [unwind, unwind, inFlow_behind, indent_behind]
    split
    · exact ih { s.addAt .blockEnd s.here with indent := s.outer.headD (-1), outer := s.outer.drop 1 }
    · rfl

theorem unwindTo_behind (column : Int) : (s.behind old).unwindTo column = (s.unwindTo column).behind old :=
  unwind_behind old s column _

theorem indentTo_behind (column : Nat) : (s.behind old).indentTo column = (s.indentTo column).map (behind old) := by
  unfold indentTo
  rw [indent_behind]
  split <;> rfl

theorem openBlock_behind (word : Word) (column : Nat) :
    (s.behind old).openBlock word column = (s.openBlock word column).behind old := by
  unfold openBlock
  rw [indentTo_behind]
  cases s.indentTo column <;> rfl

theorem skipToToken_behind (steps : Nat) : skipToToken steps (s.behind old) = (skipToToken steps s).behind old := by
  induction steps generalizing s with
  | zero => rfl
  | succ steps ih =>
    rw [skipToToken, skipToToken]
    rw [apply_ite (behind old), inFlow_behind]
    exact ite_congr rfl (fun _ => ih { s with cursor := _, keyAllowed := s.keyAllowed || !s.inFlow }) fun _ => rfl

theorem withKey_behind (key : PossibleKey) :
    (s.behind old).withKey (key.behind old.length) = (s.withKey key).behind old := by
  have forgotten : ({ s.behind old with keys := none :: (s.behind old).keys.drop 1 } : Cutter) =
      behind old { s with keys := none :: s.keys.drop 1 } := by
    simp [behind]
  unfold withKey
  rw [forgotten]
  dsimp only [PossibleKey.behind]
  rw [insertAt_behind]
  rfl

theorem settleKey_behind (key : PossibleKey) :
    (s.behind old).settleKey (key.behind old.length) = (s.settleKey key).behind old := by
  rw [settleKey_eq, settleKey_eq, withKey_behind, inFlow_behind, indentTo_behind]
  split
  · rfl
  · change (match Option.map (behind old) ((s.withKey key).indentTo key.place.column) with | some t => _ | none => _) = _
    cases (s.withKey key).indentTo key.place.column with
    | none => rfl
    | some t => exact insertAt_behind old t key.position .blockMappingStart key.place

theorem takeEnd_behind : (s.behind old).takeEnd = s.takeEnd.map (behind old) := by
  unfold takeEnd
  rw [unwindTo_behind, dropKey_behind]
  cases (s.unwindTo (-1)).dropKey <;> rfl

theorem takeDirective_behind : (s.behind old).takeDirective = s.takeDirective.map (behind old) := by
  unfold takeDirective
  rw [unwindTo_behind, dropKey_behind]
  cases (s.unwindTo (-1)).dropKey with
  | error failure => rfl
  | ok dropped =>
    dsimp only [Except.map, bind, Except.bind]
    rw [cursor_behind]
    cases readDirective dropped.cursor <;> rfl

theorem takeDocumentMark_behind (word : Word) :
    (s.behind old).takeDocumentMark word = (s.takeDocumentMark word).map (behind old) := by
  unfold takeDocumentMark
  rw [unwindTo_behind, dropKey_behind]
  cases (s.unwindTo (-1)).dropKey <;> rfl

theorem takeOpening_behind (word : Word) : (s.behind old).takeOpening word = (s.takeOpening word).map (behind old) := by
  unfold takeOpening
  rw [noteKey_behind]
  cases s.noteKey <;> rfl

theorem takeClosing_behind (word : Word) : (s.behind old).takeClosing word = (s.takeClosing word).map (behind old) := by
  unfold takeClosing
  rw [dropKey_behind]
  cases s.dropKey with
  | error failure => rfl
  | ok dropped =>
    dsimp only [Except.map, bind, Except.bind, pure, Except.pure]
    rw [inFlow_behind]
    split
    · simp [take, add, behind, here]
    · rfl

theorem takeComma_behind : (s.behind old).takeComma = s.takeComma.map (behind old) := by
  unfold takeComma
  rw [dropKey_behind]
  cases s.dropKey <;> rfl

theorem takeDash_behind : (s.behind old).takeDash = s.takeDash.map (behind old) := by
  unfold takeDash
  rw [inFlow_behind, keyAllowed_behind]
  split
  · rfl
  · rw [here_behind, openBlock_behind, ← apply_ite (behind old)]
    dsimp only
    rw [dropKey_behind]
    cases dropKey (if s.inFlow then s else s.openBlock .blockSequenceStart s.here.column) <;> rfl

theorem takeKeyMark_behind : (s.behind old).takeKeyMark = s.takeKeyMark.map (behind old) := by
  unfold takeKeyMark
  rw [inFlow_behind, keyAllowed_behind]
  split
  · rfl
  · rw [here_behind, openBlock_behind, ← apply_ite (behind old)]
    dsimp only
    rw [dropKey_behind]
    cases dropKey (if s.inFlow then s else s.openBlock .blockMappingStart s.here.column) with
    | error failure => rfl
    | ok dropped =>
      dsimp only [Except.map, bind, Except.bind, pure, Except.pure]
      rw [inFlow_behind]
      rfl

theorem takeColon_behind : (s.behind old).takeColon = s.takeColon.map (behind old) := by
  have alone : (if !s.inFlow && !s.keyAllowed then (s.behind old).refuse .misplacedValue
      else do
        let t := if s.inFlow then s.behind old else (s.behind old).openBlock .blockMappingStart s.here.column
        let t ← t.dropKey
        return { t with keyAllowed := !t.inFlow }.take .value 1) =
      (if !s.inFlow && !s.keyAllowed then s.refuse .misplacedValue
      else do
        let t := if s.inFlow then s else s.openBlock .blockMappingStart s.here.column
        let t ← t.dropKey
        return { t with keyAllowed := !t.inFlow }.take .value 1).map (behind old) := by
    split
    · rfl
    · rw [openBlock_behind, ← apply_ite (behind old)]
      dsimp only
      rw [dropKey_behind]
      cases dropKey (if s.inFlow then s else s.openBlock .blockMappingStart s.here.column) with
      | error failure => rfl
      | ok dropped =>
        dsimp only [Except.map, bind, Except.bind, pure, Except.pure]
        rw [inFlow_behind]
        rfl
  unfold takeColon
  rw [inFlow_behind, keyAllowed_behind, here_behind]
  cases slots : s.keys with
  | nil =>
    have there : (s.behind old).keys = [] := by simp [behind, slots]
    rw [there]
    exact alone
  | cons slot rest =>
    have there : (s.behind old).keys = slot.map (·.behind old.length) :: rest.map (Option.map (·.behind old.length)) := by
      simp [behind, slots]
    rw [there]
    cases slot with
    | none => exact alone
    | some key =>
      dsimp only [Option.map_some]
      rw [settleKey_behind]
      rfl

theorem takeKeyStart_behind (read : Cursor → Except Failure (Token × Cursor)) :
    (s.behind old).takeKeyStart read = (s.takeKeyStart read).map (behind old) := by
  unfold takeKeyStart
  rw [noteKey_behind]
  cases s.noteKey with
  | error failure => rfl
  | ok noted =>
    dsimp only [Except.map, bind, Except.bind]
    rw [cursor_behind]
    cases read noted.cursor <;> rfl

theorem takeBlock_behind : (s.behind old).takeBlock = s.takeBlock.map (behind old) := by
  unfold takeBlock
  rw [dropKey_behind]
  cases s.dropKey with
  | error failure => rfl
  | ok dropped =>
    dsimp only [Except.map, bind, Except.bind]
    rw [cursor_behind, indent_behind]
    cases readBlock dropped.indent dropped.cursor <;> rfl

theorem takePlain_behind : (s.behind old).takePlain = s.takePlain.map (behind old) := by
  unfold takePlain
  rw [noteKey_behind]
  cases s.noteKey with
  | error failure => rfl
  | ok noted =>
    dsimp only [Except.map, bind, Except.bind]
    rw [cursor_behind, indent_behind, inFlow_behind]
    rfl

theorem takeToken_behind : (s.behind old).takeToken = s.takeToken.map (behind old) := by
  unfold takeToken
  rw [cursor_behind, skipToToken_behind, dropStale_behind]
  cases (skipToToken (s.cursor.rest.length + 1) s).dropStale with
  | error failure => rfl
  | ok kept =>
    dsimp only [Except.map, bind, Except.bind]
    rw [here_behind, unwindTo_behind, cursor_behind, inFlow_behind, plainStarts_behind, takeEnd_behind,
      takeDirective_behind, takeDocumentMark_behind, takeDocumentMark_behind, here_behind]
    generalize kept.unwindTo kept.here.column = t
    split
    · rfl
    · split
      · rfl
      · split
        · rfl
        · split
          · rfl
          · split
            · exact takeOpening_behind ..
            · exact takeOpening_behind ..
            · exact takeClosing_behind ..
            · exact takeClosing_behind ..
            · exact takeComma_behind ..
            · exact takeKeyStart_behind ..
            · exact takeKeyStart_behind ..
            · exact takeKeyStart_behind ..
            · exact takeKeyStart_behind ..
            · exact takeKeyStart_behind ..
            · split
              · exact takeDash_behind ..
              · split
                · exact takeKeyMark_behind ..
                · split
                  · exact takeColon_behind ..
                  · split
                    · exact takeBlock_behind ..
                    · split
                      · exact takePlain_behind ..
                      · rfl

end Cutter

end AccessPolicy.Yaml
