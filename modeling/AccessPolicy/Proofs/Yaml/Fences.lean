import AccessPolicy.Proofs.Yaml.Bracketing

namespace AccessPolicy.Yaml

namespace Cutter

variable {s s' t : Cutter} {tokens : List Token} {text : List Char}

theorem step_behind (old : List Token) (s : Cutter) : (s.behind old).step = s.step.map (behind old) := by
  unfold step
  rw [takeToken_behind]
  cases s.takeToken with
  | error failure => rfl
  | ok taken => exact dropStale_behind old taken

/-- Behind older tokens a text is cut as without them. -/
theorem runs_behind_iff {old : List Token} :
    Runs (s.behind old) tokens ↔ ∃ later, tokens = old.reverse ++ later ∧ Runs s later := by
  constructor
  · intro runs
    generalize here : s.behind old = t at runs
    induction runs generalizing s with
    | @last t t' taken finished =>
      subst here
      rw [step_behind] at taken
      cases next : s.step with
      | error failure => simp [next, Except.map] at taken
      | ok s' =>
        rw [next] at taken
        cases taken
        exact ⟨s'.made.reverse, by simp [behind], .last next finished⟩
    | @more t t' tokens taken goesOn rest ih =>
      subst here
      rw [step_behind] at taken
      cases next : s.step with
      | error failure => simp [next, Except.map] at taken
      | ok s' =>
        rw [next] at taken
        cases taken
        obtain ⟨later, same, runs⟩ := ih rfl
        exact ⟨later, same, .more next goesOn runs⟩
  · rintro ⟨later, rfl, runs⟩
    induction runs with
    | @last s s' taken finished =>
      have next : (s.behind old).step = .ok (s'.behind old) := by rw [step_behind, taken]; rfl
      have made : (s'.behind old).made.reverse = old.reverse ++ s'.made.reverse := by simp [behind]
      exact made ▸ .last next finished
    | @more s s' tokens taken goesOn rest ih =>
      have next : (s.behind old).step = .ok (s'.behind old) := by rw [step_behind, taken]; rfl
      exact .more next goesOn ih

theorem Runs.exists_step (runs : Runs s tokens) : ∃ s', s.step = .ok s' := by
  cases runs with
  | last taken _ => exact ⟨_, taken⟩
  | more taken _ _ => exact ⟨_, taken⟩

/-- What comes of a cutting depends only on its next step. -/
theorem Runs.of_step (runs : Runs s tokens) (same : s.step = t.step) : Runs t tokens := by
  cases runs with
  | last taken finished => exact .last (same ▸ taken) finished
  | more taken goesOn rest => exact .more (same ▸ taken) goesOn rest

theorem step_eq_of_ahead (same : s.ahead = t.ahead) : s.step = t.step := by
  unfold step
  rw [takeToken_eq_of_ahead same]

/-- Where a token or the end of the text stands, the next token is there. -/
theorem ahead_of_here (noSpace : s.cursor.next ≠ ' ') (noComment : s.cursor.next ≠ '#')
    (noBreak : isBreak s.cursor.next = false) : s.ahead = s := by
  have stays : s.cursor.skip (· == ' ') = s.cursor := by
    have none : s.cursor.run (· == ' ') = [] := by
      unfold Cursor.run
      cases rest : s.cursor.rest with
      | nil => rfl
      | cons ch rest =>
        have other : ch ≠ ' ' := by simpa [Cursor.next, Cursor.peek, rest] using noSpace
        simp [other]
    simp [Cursor.skip, none, Cursor.advanceBy]
  have here : s.cursor.pastComment = s.cursor := by simp [Cursor.pastComment, stays, noComment]
  unfold ahead
  rw [skipToToken_succ, here, noBreak]
  rfl

/-- Whether a cutting stands at the mark of a document or at the end of the text. -/
structure IsAtFence (s : Cutter) : Prop where
  first : s.cursor.mark.column = 0
  marked : s.cursor.rest = [] ∨ s.cursor.atDocumentMark = true

theorem IsAtFence.next (fence : s.IsAtFence) :
    s.cursor.rest = [] ∧ s.cursor.next = endMark ∨
      s.cursor.rest ≠ [] ∧ s.cursor.atDocumentMark = true ∧ (s.cursor.next = '-' ∨ s.cursor.next = '.') := by
  rcases fence.marked with spent | marked
  · exact .inl ⟨spent, by simp [Cursor.next, Cursor.peek, spent]⟩
  · have either := marked
    rw [Cursor.atDocumentMark_eq] at either
    simp only [Bool.and_eq_true, Bool.or_eq_true, beq_iff_eq] at either
    have next := either.1.imp (·.1.1) (·.1.1)
    refine .inr ⟨fun spent => ?_, marked, next⟩
    rcases next with next | next <;> simp [Cursor.next, Cursor.peek, spent, endMark] at next

theorem IsAtFence.ahead (fence : s.IsAtFence) : s.ahead = s := by
  have next : s.cursor.next = endMark ∨ s.cursor.next = '-' ∨ s.cursor.next = '.' := by
    rcases fence.next with ⟨_, next⟩ | ⟨_, _, next⟩
    · exact .inl next
    · exact .inr next
  apply ahead_of_here <;> rcases next with next | next | next <;> simp [next, endMark, isBreak]

/-- Ends all blocks. -/
def close (s : Cutter) : Except Failure Cutter := do
  let s ← s.dropStale
  ((s.unwindTo s.here.column).unwindTo (-1)).dropKey

/-- Takes the mark of a document, or the end of the text. -/
def passMark (s : Cutter) : Cutter :=
  if s.cursor.rest.isEmpty then
    { s.addAt .streamEnd s.here with keyAllowed := false, keys := [none], finished := true }
  else { s with keyAllowed := false }.take (if s.cursor.next == '-' then .documentStart else .documentEnd) 3

theorem takeToken_at_fence (fence : s.IsAtFence) : s.takeToken = s.close.map passMark := by
  have here : skipToToken (s.cursor.rest.length + 1) s = s := fence.ahead
  unfold takeToken close
  rw [here]
  cases kept : s.dropStale with
  | error failure => rfl
  | ok s₁ =>
    have cursor : (s₁.unwindTo s₁.here.column).cursor = s.cursor := by
      rw [(unwindTo_stands s₁.here.column s₁.places_anywhere).cursor]
      exact ((meets_dropStale s.places_anywhere).of_ok kept).2.cursor
    dsimp only [bind, Except.bind]
    rw [cursor]
    generalize s₁.unwindTo s₁.here.column = u at cursor ⊢
    have ending {s₂ : Cutter} (dropped : (u.unwindTo (-1)).dropKey = .ok s₂) : s₂.cursor = s.cursor := by
      have stands := (meets_dropKey (u.unwindTo (-1)).places_anywhere).of_ok dropped
      rw [stands.cursor, (unwindTo_stands (-1) u.places_anywhere).cursor, cursor]
    rcases fence.next with ⟨spent, _⟩ | ⟨left, marked, next⟩
    · rw [spent]
      unfold takeEnd
      cases dropped : (u.unwindTo (-1)).dropKey with
      | error failure => rfl
      | ok s₂ =>
        have spent : s₂.cursor.rest = [] := by rw [ending dropped, spent]
        simp [Except.map, passMark, spent, bind, Except.bind, pure, Except.pure]
    · have left : s.cursor.rest.isEmpty = false := by simpa using left
      have taken (word : Word) (same : word = if s.cursor.next == '-' then .documentStart else .documentEnd) :
          u.takeDocumentMark word = (u.unwindTo (-1)).dropKey.map passMark := by
        unfold takeDocumentMark
        cases dropped : (u.unwindTo (-1)).dropKey with
        | error failure => rfl
        | ok s₂ => simp [Except.map, passMark, ending dropped, left, same, bind, Except.bind, pure, Except.pure]
      rw [left, marked, fence.first]
      rcases next with next | next
      · rw [next, ← taken .documentStart (by simp [next])]
        rfl
      · rw [next, ← taken .documentEnd (by simp [next])]
        rfl

theorem unwind_eq (column : Int) (steps : Nat) (s : Cutter) :
    ∃ ends indent outer, (∀ token ∈ ends, token.word = .blockEnd) ∧
      unwind column steps s = { s with made := ends ++ s.made, indent, outer } := by
  induction steps generalizing s with
  | zero => exact ⟨[], s.indent, s.outer, by simp, rfl⟩
  | succ steps ih =>
    rw [unwind]
    split
    · obtain ⟨ends, indent, outer, blockEnds, same⟩ :=
        ih { s.addAt .blockEnd s.here with indent := s.outer.headD (-1), outer := s.outer.drop 1 }
      refine ⟨ends ++ [⟨.blockEnd, s.here, s.here⟩], indent, outer, fun token member => ?_, ?_⟩
      · rcases List.mem_append.mp member with inner | last
        · exact blockEnds token inner
        · rw [List.mem_singleton.mp last]
      · rw [same]
        simp [addAt, add]
    · exact ⟨[], s.indent, s.outer, by simp, rfl⟩

/-- Outside brackets all blocks end. -/
theorem unwind_outermost {steps : Nat} (outside : s.inFlow = false) (nested : Nested s.indent s.outer)
    (enough : s.outer.length < steps) : (unwind (-1) steps s).indent = -1 := by
  induction steps generalizing s with
  | zero => omega
  | succ steps ih =>
    rw [unwind, outside]
    split
    · rename_i further
      cases outer : s.outer with
      | nil =>
        rw [outer] at nested
        simp only [Nested] at nested
        simp [nested] at further
      | cons inner rest =>
        rw [outer, List.length_cons] at enough
        rw [outer] at nested
        exact ih (s := { s.addAt .blockEnd s.here with indent := inner, outer := rest }) outside nested.2.2
          (Nat.lt_of_succ_lt_succ enough)
    · rename_i least
      have lower := nested.least
      simp only [Bool.not_false, Bool.true_and, decide_eq_true_eq] at least
      omega

/-- Outside all blocks, with nothing made yet, where a key may start or not. -/
def resting (c : Cursor) (keyAllowed : Bool) : Cutter := ⟨c, [], -1, [], [none], keyAllowed, false⟩

theorem fresh_eq_resting (text : List Char) : fresh text = resting (.start text) true := rfl

/-- The end of all blocks, in two steps, adds nothing but tokens for the ends of blocks. -/
theorem unwindTo_ends (sound : s.IsSound) :
    ∃ ends indent outer, (∀ token ∈ ends, token.word = .blockEnd) ∧
      (s.unwindTo s.here.column).unwindTo (-1) = { s with made := ends ++ s.made, indent, outer } ∧
      IsSound { s with made := ends ++ s.made, indent, outer } ∧ (s.inFlow = false → indent = -1) := by
  have least : (-1 : Int) ≤ s.here.column := Int.le_trans (by decide) (Int.natCast_nonneg _)
  obtain ⟨ends₁, indent₁, outer₁, blockEnds₁, first⟩ := unwind_eq s.here.column (s.outer.length + 1) s
  obtain ⟨_, sound₁⟩ := unwind_comes (P := fun _ => True) trivial least (s.outer.length + 1) sound
  rw [first] at sound₁
  obtain ⟨ends₂, indent₂, outer₂, blockEnds₂, second⟩ := unwind_eq (-1) (outer₁.length + 1)
    { s with made := ends₁ ++ s.made, indent := indent₁, outer := outer₁ }
  obtain ⟨_, sound₂⟩ := unwind_comes (P := fun _ => True) trivial (Int.le_refl _) (outer₁.length + 1) sound₁
  have outermost (outside : s.inFlow = false) :=
    unwind_outermost (s := { s with made := ends₁ ++ s.made, indent := indent₁, outer := outer₁ }) outside
      sound₁.nested (Nat.lt_succ_self _)
  rw [second] at sound₂ outermost
  refine ⟨ends₂ ++ ends₁, indent₂, outer₂, fun token member => ?_, ?_, ?_, outermost⟩
  · exact (List.mem_append.mp member).elim (blockEnds₂ token) (blockEnds₁ token)
  · unfold unwindTo
    rw [first, List.append_assoc]
    exact second
  · rw [List.append_assoc]
    exact sound₂

/-- Outside brackets nothing is left of blocks and keys where all blocks have ended. -/
theorem close_eq (sound : s.IsSound) (closed : level s.made = 0) (here : s.cursor = .start text)
    (ended : s.close = .ok t) :
    ∃ ends, (∀ token ∈ ends, token.word = .blockEnd) ∧
      t = (resting (.start text) s.keyAllowed).behind (ends ++ s.made) := by
  unfold close at ended
  rw [dropStale_eq] at ended
  cases slots : s.keys.reverse.mapM s.keepSlot with
  | error failure => simp [slots, bind, Except.bind] at ended
  | ok kept =>
    have single : kept.length = 1 := by
      rw [← (mapM_eq_ok_iff.mp slots).length_eq, List.length_reverse, sound.level, closed]
    obtain ⟨slot, rfl⟩ := List.length_eq_one_iff.mp single
    rw [slots] at ended
    dsimp only [bind, Except.bind, List.reverse_singleton] at ended
    have goesOn := sound.goesOn
    have sound : IsSound { s with keys := [slot] } := ⟨sound.nested, sound.goesOn, by simp [closed]⟩
    obtain ⟨ends, indent, outer, blockEnds, unwound, sound', outermost⟩ := unwindTo_ends sound
    obtain rfl : indent = -1 := outermost rfl
    obtain rfl : outer = [] := sound'.nested.outermost
    refine ⟨ends, blockEnds, ?_⟩
    have dropped : dropKey { s with made := ends ++ s.made, indent := -1, outer := [], keys := [slot] } = .ok t :=
      unwound ▸ ended
    have fresh : ({ s with made := ends ++ s.made, indent := -1, outer := [], keys := [none] } : Cutter) =
        (resting (.start text) s.keyAllowed).behind (ends ++ s.made) := by
      simp [resting, behind, here, goesOn]
    rw [← fresh]
    cases slot with
    | none => exact (Except.ok.inj dropped).symm
    | some key =>
      unfold dropKey at dropped
      dsimp only at dropped
      split at dropped
      · cases dropped
      · exact (Except.ok.inj dropped).symm

/-- The end of all blocks adds nothing but tokens for the ends of blocks. -/
theorem meets_close_made (sound : s.IsSound) :
    Meets (fun t => t.cursor = s.cursor ∧ ∃ ends, (∀ token ∈ ends, token.word = .blockEnd) ∧ t.made = ends ++ s.made)
      (fun _ => True) s.close := by
  refine (meets_dropStale_stays sound).bind fun kept stays => ?_
  obtain ⟨ends, indent, outer, blockEnds, unwound, sound', _⟩ := unwindTo_ends stays.sound
  rw [unwound]
  refine (meets_dropKey_stays sound').mono fun dropped dropping => ?_
  exact ⟨dropping.cursor.trans stays.cursor, ends, blockEnds, by rw [dropping.made, stays.made]⟩

/-- Whoever gets past a fence ends all blocks there. -/
theorem exists_close (fence : s.IsAtFence) (runs : Runs s tokens) :
    ∃ t, s.close = .ok t ∧ s.takeToken = .ok t.passMark := by
  obtain ⟨s', taken⟩ := runs.exists_step
  unfold step at taken
  rw [takeToken_at_fence fence] at taken ⊢
  cases ended : s.close with
  | error failure => simp [ended, Except.map, bind, Except.bind] at taken
  | ok t => exact ⟨t, rfl, rfl⟩

theorem level_append_of_ends {ends : List Token}
    (blockEnds : ∀ token ∈ ends, token.word = .blockEnd) (made : List Token) :
    level (ends ++ made) = level made := by
  induction ends with
  | nil => rfl
  | cons token ends ih =>
    obtain ⟨first, rest⟩ := List.forall_mem_cons.mp blockEnds
    rw [List.cons_append, level_cons, first, ih rest]
    rfl

/-- The first mark among the tokens of a text is the one where the cutting has come without any. -/
theorem borders_at_fence (fence : s.IsAtFence) (left : s.cursor.rest ≠ []) (sound : s.IsSound)
    (clear : ∀ token ∈ s.made, token.word.isBorder = false) (runs : Runs s tokens) :
    BordersAt (level s.made) tokens.reverse := by
  obtain ⟨t, ended, taken⟩ := exists_close fence runs
  obtain ⟨cursor, ends, blockEnds, made⟩ := (meets_close_made sound).of_ok ended
  have marked : BordersAt (level s.made) t.passMark.made := by
    have left : t.cursor.rest.isEmpty = false := by simpa [cursor] using left
    unfold passMark
    rw [left]
    refine ⟨[], _, t.made, rfl, ?_, fun token member => ?_, ?_⟩
    · dsimp only
      split <;> rfl
    · rw [made] at member
      rcases List.mem_append.mp member with last | earlier
      · rw [blockEnds token last]
        rfl
      · exact clear token earlier
    · rw [made, level_append_of_ends blockEnds]
  have made' {s' : Cutter} (next : s.step = .ok s') : s'.made = t.passMark.made := by
    unfold step at next
    rw [taken] at next
    exact ((meets_dropStale_made t.passMark).of_ok next)
  cases runs with
  | last next finished =>
    rw [List.reverse_reverse, made' next]
    exact marked
  | @more _ s' _ next goesOn rest =>
    have comes := (meets_step_comes (fun _ _ => trivial) s.ahead.cursor.allows_any sound).of_ok next
    have sound' := comes.sound.resolve_left fun ended => by simp [ended.finished] at goesOn
    exact (made' next ▸ marked).grows (rest.grows (fun _ _ => trivial) (fun d _ => d.allows_any) sound')

theorem passMark_behind (old : List Token) (s : Cutter) : (s.behind old).passMark = s.passMark.behind old := by
  unfold passMark
  rw [cursor_behind]
  split <;> rfl

theorem takeToken_resting_fence (marked : text = [] ∨ (Cursor.start text).atDocumentMark = true) (keyAllowed : Bool) :
    (resting (.start text) keyAllowed).takeToken = .ok (fresh text).passMark := by
  have fence : (resting (.start text) keyAllowed).IsAtFence := ⟨rfl, marked⟩
  rw [takeToken_at_fence fence]
  rfl

/-- At a fence outside brackets the cutting goes on as if the text started there. -/
theorem step_at_fence (fence : s.IsAtFence) (sound : s.IsSound) (closed : level s.made = 0)
    (here : s.cursor = .start text)
    (ended : s.close = .ok t) :
    s.step = ((fresh text).behind t.made).step ∧
      ∃ ends, (∀ token ∈ ends, token.word = .blockEnd) ∧ t.made = ends ++ s.made := by
  have marked : text = [] ∨ (Cursor.start text).atDocumentMark = true := by
    have marked := fence.marked
    rwa [here] at marked
  obtain ⟨ends, blockEnds, rfl⟩ := close_eq sound closed here ended
  refine ⟨?_, ends, blockEnds, rfl⟩
  have made : ((resting (.start text) s.keyAllowed).behind (ends ++ s.made)).made = ends ++ s.made := rfl
  unfold step
  rw [takeToken_at_fence fence, ended, made, takeToken_behind]
  change (Except.ok _ >>= dropStale) = ((resting (.start text) true).takeToken.map _ >>= dropStale)
  rw [takeToken_resting_fence marked, passMark_behind]
  rfl

end Cutter

section Cutting

open Cutter (IsHead)

variable {stop more lead : List Char} {s t : Cutter} {tokens : List Token}

theorem level_eq_of_words {made made' : List Token} (same : made'.map (·.word) = made.map (·.word)) :
    level made' = level made := by
  have words (tokens : List Token) : level tokens = (tokens.map (·.word)).foldr (fun word n => word.levelBehind n) 0 := by
    rw [List.foldr_map]
    rfl
  rw [words, words, same]

theorem Cutter.IsHead.sound (head : IsHead stop more lead t s) (sound : s.IsSound) : t.IsSound := by
  refine ⟨?_, head.goesOn.1, ?_⟩
  · rw [head.indent, head.outer]
    exact sound.nested
  · have level := sound.level
    rw [head.keys, List.length_map] at level
    rw [level, level_eq_of_words head.made]

theorem Cutter.IsHead.close (fence : IsFence stop more) (head : IsHead stop more lead t s) :
    Carries (fun s' t' => IsHead stop more lead t' s') s.close t.close := by
  refine (head.dropStale fence).bind fun s' t' kept => ?_
  rw [kept.column fence]
  exact ((kept.unwindTo _).unwindTo (-1)).dropKey

theorem Cursor.eq_start {c : Cursor} (tells : c.Tells) (first : c.mark.column = 0) : c = .start c.rest := by
  obtain ⟨rest, chars, lines, column⟩ := c
  obtain rfl : column = 0 := first
  simp [Cursor.start, ← tells.chars, ← tells.lines]

theorem Cutter.IsHead.atFence (fence : IsFence stop more) (head : IsHead stop more [] t s) :
    s.IsAtFence ∧ t.IsAtFence ∧ s.cursor = .start (stop ++ more) ∧ t.cursor = .start stop := by
  have first := head.cursor.first rfl
  obtain ⟨marked, partMarked⟩ := head.cursor.atDocumentMark_nil fence
  refine ⟨⟨head.cursor.column.trans first, .inr marked⟩, ⟨first, ?_⟩, ?_, ?_⟩
  · exact partMarked.imp_left fun none => head.cursor.part.trans none
  · rw [Cursor.eq_start head.cursor.tellsWhole (head.cursor.column.trans first), head.cursor.whole]
    rfl
  · rw [Cursor.eq_start head.cursor.tells first, head.cursor.part]
    rfl

/-- A step from before the place where a text is cut off comes to the mark there, or it is made as in the whole. -/
theorem Cutter.IsHead.step (fence : IsFence stop more) (head : IsHead stop more lead t s) {s' : Cutter}
    (taken : s.step = .ok s') :
    IsHead stop more [] t.ahead s.ahead ∨
      (stop ++ more).length < s.ahead.cursor.rest.length ∧ ∃ t' lead', t.step = .ok t' ∧ IsHead stop more lead' t' s' := by
  obtain ⟨lead₁, few₁, head₁, noBreak⟩ := head.ahead fence
  cases lead₁ with
  | nil => exact .inl head₁
  | cons ch lead₁ =>
    have inLine : ch ≠ '\n' := by
      rintro rfl
      rw [head₁.cursor.next_cons.1] at noBreak
      cases noBreak
    have carries : Carries (fun s' t' => ∃ lead', IsHead stop more lead' t' s') s.step t.step := by
      refine (carries_takeToken fence head₁ inLine).bind fun s₁ t₁ ⟨lead₂, _, head₂⟩ => ?_
      exact (head₂.dropStale fence).mono fun _ _ kept => ⟨lead₂, kept⟩
    obtain ⟨t', taken', lead', head'⟩ := carries s' taken
    refine .inr ⟨?_, t', lead', taken', head'⟩
    rw [head₁.cursor.whole]
    simp only [List.length_append, List.length_cons]
    omega

/-- Up to the place where a text is cut off the cutting of what is left goes as that of the whole, if no marks stand
before it. -/
theorem runs_to_fence (fence : IsFence stop more) (head : IsHead stop more lead t s) (sound : s.IsSound)
    (clear : ∀ token ∈ s.made, token.word.isBorder = false)
    (quiet : ∀ d, s.cursor.Follows d → (stop ++ more).length < d.rest.length →
      d.Allows fun word => word.isBorder = false)
    (runs : Cutter.Runs s tokens) :
    ∃ s' t', IsHead stop more [] t' s' ∧ s'.IsSound ∧ (∀ token ∈ s'.made, token.word.isBorder = false) ∧
      Cutter.Runs s' tokens ∧ ∀ later, Cutter.Runs t' later → Cutter.Runs t later := by
  have atFence {s t : Cutter} (head : IsHead stop more [] t.ahead s.ahead) (sound : s.IsSound)
      (clear : ∀ token ∈ s.made, token.word.isBorder = false) (runs : Cutter.Runs s tokens) :
      ∃ s' t', IsHead stop more [] t' s' ∧ s'.IsSound ∧ (∀ token ∈ s'.made, token.word.isBorder = false) ∧
        Cutter.Runs s' tokens ∧ ∀ later, Cutter.Runs t' later → Cutter.Runs t later := by
    obtain ⟨made, stays⟩ := Cutter.skipToToken_stays (s.cursor.rest.length + 1) s
    obtain ⟨whole, part, _, _⟩ := head.atFence fence
    refine ⟨s.ahead, t.ahead, head, stays sound, fun token member => clear token (made ▸ member), ?_, fun later runs => ?_⟩
    · exact runs.of_step (Cutter.step_eq_of_ahead whole.ahead.symm)
    · exact runs.of_step (Cutter.step_eq_of_ahead part.ahead)
  -- along the steps of the whole: as long as characters are left before the fence, the other cutting keeps up
  induction runs generalizing t lead with
  | @last s s' taken finished =>
    rcases head.step fence taken with there | ⟨_, t', lead', _, head'⟩
    · exact atFence there sound clear (.last taken finished)
    · simp [head'.goesOn.2] at finished
  | @more s s' tokens taken goesOn rest ih =>
    rcases head.step fence taken with there | ⟨before, t', lead', taken', head'⟩
    · exact atFence there sound clear (.more taken goesOn rest)
    · have follows := (((Cutter.meets_step_shorter s).of_ok taken).resolve_left (by simp [goesOn])).1
      have comes := (Cutter.meets_step_comes (fun _ inside => inside) (quiet _ s.ahead_follows before) sound).of_ok taken
      have sound' := comes.sound.resolve_left fun ended => by simp [ended.finished] at goesOn
      obtain ⟨s₁, t₁, head₁, sound₁, clear₁, runs₁, later₁⟩ := ih head' sound'
        (comes.grows.forall (fun _ inside => inside) clear) (fun d later => quiet d (follows.trans later)) atFence
      exact ⟨s₁, t₁, head₁, sound₁, clear₁, runs₁, fun later runs => .more taken' head'.goesOn.1 (later₁ later runs)⟩

/-- What is cut of a text up to a mark, and what is cut from there on. -/
structure IsCutAt (stop more : List Char) (t : Cutter) (tokens inner inner' later : List Token) : Prop where
  tokens : tokens = inner ++ later
  clear : ∀ token ∈ inner, token.word.isBorder = false
  words : inner'.map (·.word) = inner.map (·.word)
  later : Cutter.Runs (.fresh (stop ++ more)) later
  part : ∀ later', Cutter.Runs (.fresh stop) later' → Cutter.Runs t (inner' ++ later')

/-- The tokens of a text are those up to a mark and those from there on, if no bracket is open at the first mark among
them. -/
theorem cut_at_fence (fence : IsFence stop more) (head : IsHead stop more lead t s) (sound : s.IsSound)
    (clear : ∀ token ∈ s.made, token.word.isBorder = false)
    (quiet : ∀ d, s.cursor.Follows d → (stop ++ more).length < d.rest.length →
      d.Allows fun word => word.isBorder = false)
    (runs : Cutter.Runs s tokens) :
    ∃ n, BordersAt n tokens.reverse ∧ (n = 0 → ∃ inner inner' later, IsCutAt stop more t tokens inner inner' later) := by
  obtain ⟨s₁, t₁, head₁, sound₁, clear₁, runs₁, later₁⟩ := runs_to_fence fence head sound clear quiet runs
  obtain ⟨whole, part, hereWhole, herePart⟩ := head₁.atFence fence
  obtain ⟨s₂, ended, taken⟩ := Cutter.exists_close whole runs₁
  -- a mark ends the blocks before it, but no brackets: these decide whether the cutting starts anew behind it
  refine ⟨level s₁.made, ?_, fun closed => ?_⟩
  · refine Cutter.borders_at_fence whole ?_ sound₁ clear₁ runs₁
    rw [hereWhole]
    rintro spent
    have marked := fence.whole
    simp only [Cursor.start] at spent
    simp [Cursor.start, spent, Cursor.atDocumentMark] at marked
  · obtain ⟨t₂, ended', head₂⟩ := head₁.close fence s₂ ended
    have closed' : level t₁.made = 0 := (level_eq_of_words head₁.made).trans closed
    obtain ⟨sameStep, ends, blockEnds, made⟩ := Cutter.step_at_fence whole sound₁ closed hereWhole ended
    obtain ⟨sameStep', _⟩ := Cutter.step_at_fence part (head₁.sound sound₁) closed' herePart ended'
    obtain ⟨later, rfl, runs₂⟩ := Cutter.runs_behind_iff.mp (runs₁.of_step sameStep)
    refine ⟨s₂.made.reverse, t₂.made.reverse, later, rfl, fun token member => ?_, ?_, runs₂, fun later' runs' => ?_⟩
    · rw [List.mem_reverse, made] at member
      rcases List.mem_append.mp member with last | earlier
      · rw [blockEnds token last]
        rfl
      · exact clear₁ token earlier
    · rw [List.map_reverse, List.map_reverse, head₂.made]
    · exact later₁ _ ((Cutter.runs_behind_iff.mpr ⟨later', rfl, runs'⟩).of_step sameStep'.symm)

end Cutting

end AccessPolicy.Yaml
