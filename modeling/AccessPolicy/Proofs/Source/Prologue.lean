import AccessPolicy.Proofs.Source.Plain

namespace AccessPolicy.Source

open Text (Line)
open Yaml (Cursor EndsLine Token Word endMark isBreak isGap isLineEnd)
open Yaml.Cutter (Runs resting)

section Lines

variable {more stop line : List Char} {lead : List Line} {k : Bool} {tokens : List Token}

/-- A line that may stand before a document is a directive, or blank but for a comment, or it has a tab before that. -/
theorem prologue_cases (kind : kindBy isGap line = .prologue) (noEnd : endMark ∉ line) :
    line.head? = some '%' ∨ IsBlankFrom line ∨ (line.dropWhile (· == ' ')).head? = some '\t' := by
  by_cases percent : line.head? = some '%'
  · exact .inl percent
  · right
    have bare : (line.dropWhile isGap).isEmpty = true ∨ (line.dropWhile isGap).head? = some '#' := by
      unfold kindBy at kind
      grind
    cases first : line.dropWhile (· == ' ') with
    | nil => exact .inl fun ch member => by simp [first] at member
    | cons ch rest =>
      have member : ch ∈ line := (List.dropWhile_sublist _).mem (first ▸ List.mem_cons_self)
      have noSpace : ch ≠ ' ' := by simpa [first] using List.head?_dropWhile_not (· == ' ') line
      have noEnd : ch ≠ endMark := by
        rintro rfl
        exact noEnd member
      by_cases tab : ch = '\t'
      · exact .inr (by simp [tab])
      · refine .inl fun other there => ?_
        obtain rfl : ch = other := by simpa [first] using there
        by_cases gap : isGap ch = true
        · right
          simpa [isGap, Yaml.isSpaceOrEnd, isLineEnd, tab, noSpace, noEnd] using gap
        · rw [← dropWhile_spaces, first] at bare
          left
          simpa [gap] using bare

/-- A directive before a document is read in the same way without what follows the part. -/
theorem runs_directive (plain : IsPlain (line ++ (stop ++ more))) (fed : IsFed line) (ends : EndsLine stop more)
    (percent : line.head? = some '%') (runs : Runs (resting (.start (line ++ (stop ++ more))) k) tokens) :
    ∃ token token' later, tokens = token :: later ∧ (∃ d, token.word = .directive d) ∧ token'.word = token.word ∧
      Runs (resting (.start (stop ++ more)) false) later ∧
      ∀ later', Runs (resting (.start stop) false) later' → Runs (resting (.start (line ++ stop)) k) (token' :: later') := by
  obtain ⟨rest, rfl⟩ := List.head?_eq_some_iff.mp percent
  obtain ⟨token, after, later, read, rfl, rest_runs⟩ := (Yaml.Cutter.runs_percent rfl rfl k).mp runs
  have follows := ((Yaml.readsToken_directive (P := fun _ => True) fun _ _ => trivial).of_ok read).1
  have head : Cursor.IsHead stop more ('%' :: rest) (.start ('%' :: rest ++ stop)) (.start ('%' :: rest ++ (stop ++ more))) :=
    ⟨rfl, rfl, rfl, Cursor.start_tells _, Cursor.start_tells _, fun none => (nomatch none), .inr fed.getLast?,
      fun member => plain.noEnd (List.mem_append_left _ member)⟩
  obtain ⟨⟨token', after'⟩, read', same, ⟨left, _, head'⟩, first⟩ :=
    Yaml.rereads_directive ends head (List.cons_ne_nil _ _) (by simp [Cursor.next, Cursor.peek, Cursor.start]) _ read
  dsimp only at same head' first
  have column : after.mark.column = 0 := head'.column.trans first
  have there : IsRestOf ('%' :: rest) (stop ++ more) left after := ⟨(Cursor.follows_advance _).trans follows, head'.whole⟩
  have fewer : left.length < ('%' :: rest).length := by
    have shorter := follows.length_le
    rw [head'.whole, Cursor.rest_advance] at shorter
    simp only [Cursor.start, List.cons_append, List.tail_cons, List.length_append, List.length_cons] at shorter ⊢
    omega
  have behind := there.at_end plain fed fewer column
  obtain rfl : left = [] := by
    have whole := head'.whole
    rw [behind] at whole
    simpa [Cursor.start] using whole
  have behind' : after' = .start stop := by
    rw [Cursor.eq_start head'.tells first, head'.part]
    rfl
  obtain ⟨d, word⟩ := (Yaml.meets_directive_word _).of_ok read
  refine ⟨token, token', later, rfl, ⟨d, word⟩, same, behind ▸ rest_runs, fun later' runs' => ?_⟩
  exact (Yaml.Cutter.runs_percent rfl rfl k).mpr ⟨token', after', later', read', rfl, behind' ▸ runs'⟩

/-- What is cut of the lines before a document, in the whole and without what follows the part. -/
structure IsLed (stop more lead : List Char) (k : Bool) (tokens ds ds' later : List Token) (l : Bool) : Prop where
  tokens : tokens = ds ++ later
  directives : ∀ token ∈ ds, ∃ d, token.word = .directive d
  words : ds'.map (·.word) = ds.map (·.word)
  later : Runs (resting (.start (stop ++ more)) l) later
  part : ∀ later', Runs (resting (.start stop) l) later' → Runs (resting (.start (lead ++ stop)) k) (ds' ++ later')
  allowed : ds = [] → k = true → l = true

theorem endsLine_behind (ends : EndsLine stop more) (fed : ∀ line ∈ lead, IsFed line) :
    EndsLine (lead.flatten ++ stop) more := by
  rcases ends with none | none | last
  · exact .inl none
  · subst none
    rcases List.eq_nil_or_concat lead with rfl | ⟨init, line, rfl⟩
    · exact .inr (.inl rfl)
    · have feed := (fed line (by simp)).getLast?
      have inside := (fed line (by simp)).ne_nil
      exact .inr (.inr (by simp [List.getLast?_append_of_ne_nil _ inside, feed]))
  · exact .inr (.inr (by simp [last]))

/-- The lines before a document are cut into its directives. -/
theorem exists_isLed (plain : IsPlain (lead.flatten ++ (stop ++ more))) (fed : ∀ line ∈ lead, IsFed line)
    (kinds : ∀ line ∈ lead, kindBy isGap line = .prologue) (ends : EndsLine stop more)
    (runs : Runs (resting (.start (lead.flatten ++ (stop ++ more))) k) tokens) :
    ∃ ds ds' later l, IsLed stop more lead.flatten k tokens ds ds' later l := by
  induction lead generalizing k tokens with
  | nil => exact ⟨[], [], tokens, k, rfl, by simp, rfl, runs, fun _ runs' => runs', fun _ => id⟩
  | cons line lead ih =>
    obtain ⟨fedHere, fed⟩ := List.forall_mem_cons.mp fed
    obtain ⟨kind, kinds⟩ := List.forall_mem_cons.mp kinds
    rw [List.flatten_cons, List.append_assoc] at plain runs
    have noEnd : endMark ∉ line := fun member => plain.noEnd (List.mem_append_left _ member)
    -- the notation passes over no tab, so a text that is cut has no line of the last kind
    rcases prologue_cases kind noEnd with percent | blank | tab
    · have ends' := endsLine_behind ends fed
      rw [← List.append_assoc lead.flatten] at plain runs
      obtain ⟨token, token', later, rfl, directive, same, runs, part⟩ := runs_directive plain fedHere ends' percent runs
      rw [List.append_assoc] at plain runs
      obtain ⟨ds, ds', later, l, led⟩ := ih plain.of_append fed kinds runs
      refine ⟨token :: ds, token' :: ds', later, l, ?_⟩
      refine { led with tokens := ?_, directives := ?_, words := ?_, part := fun later' runs' => ?_, allowed := ?_ }
      · rw [led.tokens, List.cons_append]
      · exact List.forall_mem_cons.mpr ⟨directive, led.directives⟩
      · rw [List.map_cons, List.map_cons, led.words, same]
      · rw [List.flatten_cons, List.append_assoc]
        exact part _ (led.part later' runs')
      · exact fun none => nomatch none
    · have inside := fedHere.ne_nil
      have whole := (isRestOf_start line (lead.flatten ++ (stop ++ more))).ahead_of_blank plain fedHere inside blank k
      obtain ⟨ds, ds', later, l, led⟩ := ih plain.of_append fed kinds (runs.of_step (Yaml.Cutter.step_eq_of_ahead whole))
      have ends' : EndsLine ((line :: lead).flatten ++ stop) more :=
        endsLine_behind ends (List.forall_mem_cons.mpr ⟨fedHere, fed⟩)
      rw [List.flatten_cons, List.append_assoc] at ends'
      have plain' : IsPlain (line ++ (lead.flatten ++ stop)) := IsPlain.part (by simpa using plain) ends'
      have part := (isRestOf_start line (lead.flatten ++ stop)).ahead_of_blank plain' fedHere inside blank k
      refine ⟨ds, ds', later, l, { led with part := fun later' runs' => ?_, allowed := fun none _ => led.allowed none rfl }⟩
      rw [List.flatten_cons, List.append_assoc]
      exact (led.part later' runs').of_step (Yaml.Cutter.step_eq_of_ahead part.symm)
    · exact absurd runs (not_runs_of_tab rfl tab k)

/-- The first token of lines that may stand before a document is the end of the text or a directive. -/
theorem first_of_prologue (plain : IsPlain lead.flatten) (cut : Text.lines lead.flatten = lead)
    (kinds : ∀ line ∈ lead, kindBy isGap line = .prologue) (runs : Runs (resting (.start lead.flatten) k) tokens) :
    ∃ first rest, tokens = first :: rest ∧ (first.word = .streamEnd ∨ ∃ d, first.word = .directive d) := by
  induction lead generalizing k with
  | nil =>
    obtain rfl := (Yaml.Cutter.runs_end rfl).mp runs
    exact ⟨_, [], rfl, .inl rfl⟩
  | cons line lead ih =>
    obtain ⟨kind, kinds⟩ := List.forall_mem_cons.mp kinds
    rw [List.flatten_cons] at plain runs
    have noEnd : endMark ∉ line := fun member => plain.noEnd (List.mem_append_left _ member)
    rcases prologue_cases kind noEnd with percent | blank | tab
    · obtain ⟨rest, rfl⟩ := List.head?_eq_some_iff.mp percent
      obtain ⟨token, after, later, read, rfl, _⟩ := (Yaml.Cutter.runs_percent rfl rfl k).mp runs
      exact ⟨token, later, rfl, .inr ((Yaml.meets_directive_word _).of_ok read)⟩
    · rcases line_cases cut with fed | ⟨rfl, inLine⟩
      · have ahead := (isRestOf_start line lead.flatten).ahead_of_blank plain fed fed.ne_nil blank k
        have split : Text.lines (line :: lead).flatten = [line] ++ lead := cut
        exact ih plain.of_append (Text.lines_flatten_of_behind split) kinds (runs.of_step (Yaml.Cutter.step_eq_of_ahead ahead))
      · have spent := (isRestOf_start line []).ahead_of_last plain (.inr inLine) blank k
        obtain rfl := (Yaml.Cutter.runs_end spent).mp runs
        exact ⟨_, [], rfl, .inl rfl⟩
    · exact absurd runs (not_runs_of_tab rfl tab k)

/-- Lines that may stand before a document do not open one. -/
theorem not_opens_of_prologue (plain : IsPlain lead.flatten) (cut : Text.lines lead.flatten = lead)
    (kinds : ∀ line ∈ lead, kindBy isGap line = .prologue) (runs : Runs (resting (.start lead.flatten) k) tokens) :
    ∀ token ∈ tokens, token.word ≠ .documentStart := by
  have allows (d : Cursor) (follows : (Cursor.start lead.flatten).Follows d) : d.Allows (· ≠ .documentStart) := by
    refine ⟨fun _ _ _ => by simp, fun first next marked => ?_, fun _ _ _ => by simp, fun _ => by simp⟩
    have left : d.rest ≠ [] := fun spent => by simp [Cursor.next, Cursor.peek, spent, endMark] at next
    rw [← List.append_nil lead] at plain cut follows
    obtain ⟨early, line, late, rfl, _, opens, _⟩ := exists_line plain cut follows (List.length_pos_iff.mpr left) first
    have opens := opens.mp ⟨marked, next⟩
    simp [kinds line (by simp)] at opens
  have others (word : Word) (inside : word.isBorder = false) : word ≠ .documentStart := by
    rintro rfl
    cases inside
  intro token member
  exact (runs.grows others allows ⟨rfl, rfl, rfl⟩).forall others (by simp [resting]) token (List.mem_reverse.mpr member)

end Lines

end AccessPolicy.Source
