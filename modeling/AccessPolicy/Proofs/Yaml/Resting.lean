import AccessPolicy.Proofs.Yaml.Fences

namespace AccessPolicy.Yaml.Cutter

variable {s : Cutter} {c : Cursor} {tokens : List Token} {n m : Nat}

section Blanks

theorem lineBreak_shorter (breaks : isBreak c.next = true) : c.lineBreak.2.rest.length < c.rest.length := by
  cases here : c.rest with
  | nil => simp [Cursor.next, Cursor.peek, here, isBreak, endMark] at breaks
  | cons ch rest =>
    have left : c.rest ≠ [] := by simp [here]
    have next : c.next = ch := by simp [Cursor.next, Cursor.peek, here]
    rw [next] at breaks
    rw [← here]
    by_cases pair : ch = '\r' ∧ rest.head? = some '\n'
    · obtain ⟨rfl, feed⟩ := pair
      obtain ⟨later, rfl⟩ := List.head?_eq_some_iff.mp feed
      rw [Cursor.lineBreak_pair here]
      exact (c.advance.follows_advance).length_lt left
    · rw [Cursor.lineBreak_single here breaks pair]
      exact (Cursor.Follows.refl c.advance).length_lt left

theorem pastComment_follows (c : Cursor) : c.Follows c.pastComment :=
  (c.follows_skip (· == ' ')).trans (follows_comment _)

/-- With more steps than characters are left, one gets to the next token. -/
theorem skipToToken_enough (enough : s.cursor.rest.length < n) (enough' : s.cursor.rest.length < m) :
    skipToToken n s = skipToToken m s := by
  induction n generalizing m s with
  | zero => omega
  | succ n ih =>
    obtain ⟨m, rfl⟩ : ∃ k, m = k + 1 := Nat.exists_eq_succ_of_ne_zero (by omega)
    rw [skipToToken_succ, skipToToken_succ]
    split
    · rename_i breaks
      have fewer := lineBreak_shorter breaks
      have less := (pastComment_follows s.cursor).length_le
      exact ih (by dsimp only; omega) (by dsimp only; omega)
    · rfl

/-- Past a line break one is at the next token of what follows. -/
theorem ahead_of_break (breaks : isBreak s.cursor.pastComment.next = true) :
    s.ahead = ahead { s with cursor := s.cursor.pastComment.lineBreak.2, keyAllowed := s.keyAllowed || !s.inFlow } := by
  have fewer := lineBreak_shorter breaks
  have less := (pastComment_follows s.cursor).length_le
  unfold ahead
  rw [skipToToken_succ, breaks, if_pos rfl]
  exact skipToToken_enough (by dsimp only; omega) (by dsimp only; omega)

theorem ahead_of_noBreak (noBreak : isBreak s.cursor.pastComment.next = false) :
    s.ahead = { s with cursor := s.cursor.pastComment } := by
  unfold ahead
  rw [skipToToken_succ, noBreak]
  rfl

end Blanks

section Taking

variable {k : Bool} {ch : Char}

theorem step_of_takeToken {after : Cursor} {token : Token} {allowed : Bool}
    (taken : s.takeToken = .ok ((resting after allowed).behind [token])) :
    s.step = .ok ((resting after allowed).behind [token]) := by
  unfold step
  rw [taken]
  rfl

/-- What is behind a token that leaves no block open. -/
theorem runs_of_step {after : Cursor} {token : Token} {allowed : Bool}
    (step : s.step = .ok ((resting after allowed).behind [token])) :
    Runs s tokens ↔ ∃ later, tokens = token :: later ∧ Runs (resting after allowed) later := by
  refine Iff.trans ⟨fun runs => ?_, fun runs => .more step rfl runs⟩ runs_behind_iff
  cases runs with
  | last taken finished =>
    rw [step] at taken
    cases taken
    cases finished
  | more taken _ rest =>
    rw [step] at taken
    cases taken
    exact rest

theorem unwindTo_resting (c : Cursor) (k : Bool) {column : Int} (least : -1 ≤ column) :
    (resting c k).unwindTo column = resting c k := by
  have noFurther : ¬ column < -1 := by omega
  simp [unwindTo, unwind, resting, noFurther]

theorem isEmpty_of_next (other : c.next ≠ endMark) : c.rest.isEmpty = false := by
  cases rest : c.rest with
  | nil => simp [Cursor.next, Cursor.peek, rest] at other
  | cons ch rest => rfl

theorem takeToken_percent (percent : c.next = '%') (first : c.mark.column = 0) (k : Bool) :
    (resting c k).takeToken = readDirective c >>= fun r => .ok ((resting r.2 false).behind [r.1]) := by
  have here : skipToToken (c.rest.length + 1) (resting c k) = resting c k :=
    ahead_of_here (s := resting c k) (by simp [resting, percent]) (by simp [resting, percent])
      (by simp [resting, percent, isBreak])
  have cursor : (resting c k).cursor = c := rfl
  have column : (resting c k).here.column = 0 := first
  have kept : (resting c k).dropStale = .ok (resting c k) := rfl
  unfold takeToken
  rw [cursor, here]
  dsimp only [bind, Except.bind]
  rw [kept]
  dsimp only
  rw [column, unwindTo_resting c k (by decide), cursor, isEmpty_of_next (percent ▸ by decide), percent, first]
  change takeDirective _ = _
  unfold takeDirective
  rw [unwindTo_resting c k (by decide)]
  rfl

/-- A directive is a token of its own. -/
theorem runs_percent (percent : c.next = '%') (first : c.mark.column = 0) (k : Bool) :
    Runs (resting c k) tokens ↔
      ∃ token after later, readDirective c = .ok (token, after) ∧ tokens = token :: later ∧
        Runs (resting after false) later := by
  have taken := takeToken_percent percent first k
  constructor
  · intro runs
    obtain ⟨s', step⟩ := runs.exists_step
    cases read : readDirective c with
    | error failure =>
      unfold Cutter.step at step
      rw [taken, read] at step
      cases step
    | ok r =>
      obtain ⟨token, after⟩ := r
      rw [read] at taken
      obtain ⟨later, same, rest⟩ := (runs_of_step (step_of_takeToken taken)).mp runs
      exact ⟨token, after, later, rfl, same, rest⟩
  · rintro ⟨token, after, later, read, same, rest⟩
    rw [read] at taken
    exact (runs_of_step (step_of_takeToken taken)).mpr ⟨later, same, rest⟩

/-- The token for the mark that a text starts with. -/
def markToken (text : List Char) : Token :=
  ⟨if (Cursor.start text).next == '-' then .documentStart else .documentEnd, (Cursor.start text).mark,
    ((Cursor.start text).advanceBy 3).mark⟩

/-- A mark of documents is a token of its own. -/
theorem runs_mark {text : List Char} (marked : (Cursor.start text).atDocumentMark = true) (k : Bool) :
    Runs (resting (.start text) k) tokens ↔
      ∃ later, tokens = markToken text :: later ∧ Runs (resting ((Cursor.start text).advanceBy 3) false) later := by
  refine runs_of_step (step_of_takeToken ?_)
  have left : (Cursor.start text).rest.isEmpty = false := by
    cases text with
    | nil => simp [Cursor.start, Cursor.atDocumentMark] at marked
    | cons ch rest => rfl
  rw [takeToken_resting_fence (.inr marked)]
  unfold passMark
  rw [fresh_eq_resting]
  change Except.ok (if (Cursor.start text).rest.isEmpty then _ else _) = _
  rw [left]
  rfl

theorem ahead_resting (c : Cursor) (k : Bool) :
    ∃ d l, (resting c k).ahead = resting d l ∧ c.Follows d := by
  have skipped (steps : Nat) (c : Cursor) (k : Bool) : ∃ d l, skipToToken steps (resting c k) = resting d l ∧ c.Follows d := by
    induction steps generalizing c k with
    | zero => exact ⟨c, k, rfl, .refl c⟩
    | succ steps ih =>
      rw [skipToToken_succ]
      split
      · obtain ⟨d, l, same, follows⟩ := ih c.pastComment.lineBreak.2 (k || true)
        exact ⟨d, l, same, ((pastComment_follows c).trans (Cursor.follows_lineBreak _)).trans follows⟩
      · exact ⟨c.pastComment, k, rfl, pastComment_follows c⟩
  exact skipped (c.rest.length + 1) c k

/-- At the end of the text there is one token for it. -/
theorem runs_end (spent : (resting c k).ahead.cursor.rest = []) :
    Runs (resting c k) tokens ↔ tokens = [⟨.streamEnd, (resting c k).ahead.here, (resting c k).ahead.here⟩] := by
  obtain ⟨d, l, here, _⟩ := ahead_resting c k
  rw [here] at spent ⊢
  have spent : d.rest = [] := spent
  have skipped : skipToToken ((resting c k).cursor.rest.length + 1) (resting c k) = resting d l := here
  have kept : (resting d l).dropStale = .ok (resting d l) := rfl
  have cursor : (resting d l).cursor = d := rfl
  have taken : (resting c k).takeToken =
      .ok { (resting d l).addAt .streamEnd (resting d l).here with keyAllowed := false, keys := [none], finished := true } := by
    unfold takeToken
    rw [skipped]
    dsimp only [bind, Except.bind]
    rw [kept]
    dsimp only
    rw [unwindTo_resting d l (by omega), cursor, spent]
    change takeEnd _ = _
    unfold takeEnd
    rw [unwindTo_resting d l (by decide)]
    rfl
  have step : (resting c k).step =
      .ok { (resting d l).addAt .streamEnd (resting d l).here with keyAllowed := false, keys := [none], finished := true } := by
    unfold step
    rw [taken]
    rfl
  constructor
  · intro runs
    cases runs with
    | last next _ =>
      rw [step] at next
      cases next
      rfl
    | more next goesOn _ =>
      rw [step] at next
      cases next
      cases goesOn
  · rintro rfl
    exact .last step rfl

/-- The first token of a text is no mark of documents if none stands where it is taken. -/
theorem Runs.first_inside (runs : Runs s tokens) (nothing : s.made = []) (sound : s.IsSound)
    (allows : s.ahead.cursor.Allows fun word => word.isBorder = false) :
    ∃ first rest, tokens = first :: rest ∧ first.word.isBorder = false := by
  have clear : ∀ token ∈ s.made, token.word.isBorder = false := by simp [nothing]
  cases runs with
  | @last s s' taken finished =>
    have comes := (meets_step_comes (fun _ inside => inside) allows sound).of_ok taken
    have inside := comes.grows.forall (fun _ inside => inside) clear
    obtain ⟨first, rest, split⟩ := List.exists_cons_of_ne_nil (mt List.reverse_eq_nil_iff.mp comes.some)
    exact ⟨first, rest, split, inside first (List.mem_reverse.mp (split ▸ List.mem_cons_self))⟩
  | @more s s' tokens taken goesOn rest =>
    have comes := (meets_step_comes (fun _ inside => inside) allows sound).of_ok taken
    have inside := comes.grows.forall (fun _ inside => inside) clear
    have sound' := comes.sound.resolve_left fun ended => by simp [ended.finished] at goesOn
    obtain ⟨first, starts⟩ : ∃ first, s'.made.getLast? = some first :=
      ⟨_, List.getLast?_eq_getLast_of_ne_nil comes.some⟩
    have grows := rest.grows (fun _ _ => trivial) (fun d _ => d.allows_any) sound'
    obtain ⟨first', starts', inside'⟩ := grows.first starts (inside first (List.mem_of_getLast? starts))
    rw [List.getLast?_reverse] at starts'
    obtain ⟨later, rfl⟩ := List.head?_eq_some_iff.mp starts'
    exact ⟨first', later, rfl, inside'⟩

/-- Where no block goes on, no token starts with a tab. -/
theorem not_runs_of_tab (tab : c.pastComment.next = '\t') : ¬ Runs (resting c k) tokens := by
  intro runs
  obtain ⟨s', step⟩ := runs.exists_step
  have here : skipToToken ((resting c k).cursor.rest.length + 1) (resting c k) = resting c.pastComment k :=
    ahead_of_noBreak (s := resting c k) (by simp [resting, tab, isBreak])
  have kept : (resting c.pastComment k).dropStale = .ok (resting c.pastComment k) := rfl
  have cursor : (resting c.pastComment k).cursor = c.pastComment := rfl
  have noPlain : (resting c.pastComment k).plainStarts = false := by simp [plainStarts, cursor, tab, isGap]
  have refused : ∃ failure, (resting c k).takeToken = .error failure := by
    unfold takeToken
    rw [here]
    dsimp only [bind, Except.bind]
    rw [kept]
    dsimp only
    rw [unwindTo_resting c.pastComment k (by omega), cursor, isEmpty_of_next (tab ▸ by decide), tab, noPlain]
    exact ⟨_, rfl⟩
  obtain ⟨failure, refused⟩ := refused
  unfold Cutter.step at step
  rw [refused] at step
  cases step

end Taking

end AccessPolicy.Yaml.Cutter
