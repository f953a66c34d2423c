import AccessPolicy.Text.Line
import Mathlib.Data.List.Basic

namespace AccessPolicy.Text

theorem linesFrom_feed {start line : List Char} (rest : List Char) (inLine : '\n' ∉ line) :
    linesFrom start (line ++ '\n' :: rest) = (start.reverse ++ line ++ ['\n']) :: lines rest := by
  induction line generalizing start with
  | nil => simp [linesFrom, lines]
  | cons ch line ih =>
    rw [List.mem_cons, not_or] at inLine
    rw [List.cons_append, linesFrom, ih inLine.2]
    · simp
    · exact fun feed => inLine.1 feed.symm

theorem linesFrom_last {start line : List Char} (inLine : '\n' ∉ line) :
    linesFrom start line = if start.isEmpty ∧ line.isEmpty then [] else [start.reverse ++ line] := by
  induction line generalizing start with
  | nil => cases start <;> simp [linesFrom]
  | cons ch line ih =>
    rw [List.mem_cons, not_or] at inLine
    rw [linesFrom, ih inLine.2]
    · simp
    · exact fun feed => inLine.1 feed.symm

theorem lines_feed {line : List Char} (rest : List Char) (inLine : '\n' ∉ line) :
    lines (line ++ '\n' :: rest) = (line ++ ['\n']) :: lines rest :=
  linesFrom_feed rest inLine

theorem lines_last {line : List Char} (inLine : '\n' ∉ line) (ne : line ≠ []) : lines line = [line] := by
  rw [lines, linesFrom_last inLine]
  simp [ne]

/-- A text is empty, or one line without a feed, or a line with its feed and a text. -/
theorem lines_induction {P : List Char → Prop} (nil : P []) (last : ∀ line, '\n' ∉ line → line ≠ [] → P line)
    (feed : ∀ line rest, '\n' ∉ line → P rest → P (line ++ '\n' :: rest)) (text : List Char) : P text := by
  induction size : text.length using Nat.strongRecOn generalizing text with
  | ind size ih =>
    by_cases hasFeed : '\n' ∈ text
    · obtain ⟨line, rest, rfl, inLine⟩ := List.eq_append_cons_of_mem hasFeed
      refine feed line rest inLine (ih rest.length ?_ rest rfl)
      rw [← size, List.length_append, List.length_cons]
      omega
    · by_cases empty : text = []
      · exact empty ▸ nil
      · exact last text hasFeed empty

theorem flatten_lines (text : List Char) : (lines text).flatten = text := by
  induction text using lines_induction with
  | nil => rfl
  | last line inLine ne => rw [lines_last inLine ne, List.flatten_singleton]
  | feed line rest inLine ih => rw [lines_feed rest inLine, List.flatten_cons, ih, List.append_assoc, List.singleton_append]

theorem ends_behind_feed {line rest : List Char} (ends : (line ++ '\n' :: rest).getLast? = some '\n') :
    rest = [] ∨ rest.getLast? = some '\n' := by
  by_cases empty : rest = []
  · exact .inl empty
  · obtain ⟨ch, rest, rfl⟩ := List.exists_cons_of_ne_nil empty
    rw [List.getLast?_append_of_ne_nil _ (by simp), List.getLast?_cons_cons] at ends
    exact .inr ends

/-- Behind a feed the lines start anew. -/
theorem lines_append {before : List Char} (after : List Char) (ends : before = [] ∨ before.getLast? = some '\n') :
    lines (before ++ after) = lines before ++ lines after := by
  induction before using lines_induction with
  | nil => rfl
  | last line inLine ne =>
    exact absurd (List.mem_of_getLast? (ends.resolve_left ne)) inLine
  | feed line rest inLine ih =>
    rw [List.append_assoc, List.cons_append, lines_feed _ inLine, lines_feed _ inLine, List.cons_append, ih]
    exact ends_behind_feed (ends.resolve_left (by simp))

/-- Each line of a text that ends in a feed does. -/
theorem getLast?_of_mem_lines {text : List Char} (ends : text = [] ∨ text.getLast? = some '\n') :
    ∀ line ∈ lines text, line.getLast? = some '\n' := by
  induction text using lines_induction with
  | nil => simp [lines, linesFrom]
  | last line inLine ne => exact absurd (List.mem_of_getLast? (ends.resolve_left ne)) inLine
  | feed line rest inLine ih =>
    rw [lines_feed rest inLine]
    exact List.forall_mem_cons.mpr ⟨by simp, ih (ends_behind_feed (ends.resolve_left (by simp)))⟩

/-- The first lines of a text are the lines of a text. -/
theorem lines_flatten_of_append {text : List Char} {block after : List Line} (split : lines text = block ++ after) :
    lines block.flatten = block := by
  induction text using lines_induction generalizing block with
  | nil =>
    obtain ⟨rfl, _⟩ := List.append_eq_nil_iff.mp split.symm
    rfl
  | last line inLine ne =>
    rw [lines_last inLine ne] at split
    cases block with
    | nil => rfl
    | cons first block =>
      obtain ⟨rfl, spent⟩ := List.cons.inj split
      obtain ⟨rfl, _⟩ := List.append_eq_nil_iff.mp spent.symm
      simpa using lines_last inLine ne
  | feed line rest inLine ih =>
    rw [lines_feed rest inLine] at split
    cases block with
    | nil => rfl
    | cons first block =>
      obtain ⟨rfl, later⟩ := List.cons.inj split
      rw [List.flatten_cons, List.append_assoc, List.singleton_append, lines_feed _ inLine, ih later]

/-- The last lines of a text are the lines of a text. -/
theorem lines_flatten_of_behind {text : List Char} {before block : List Line} (split : lines text = before ++ block) :
    lines block.flatten = block := by
  induction text using lines_induction generalizing before with
  | nil =>
    obtain ⟨_, rfl⟩ := List.append_eq_nil_iff.mp split.symm
    rfl
  | last line inLine ne =>
    cases before with
    | nil => rw [← split.trans (List.nil_append _), flatten_lines]
    | cons first before =>
      rw [lines_last inLine ne] at split
      obtain ⟨_, rfl⟩ := List.append_eq_nil_iff.mp (List.cons.inj split).2.symm
      rfl
  | feed line rest inLine ih =>
    cases before with
    | nil => rw [← split.trans (List.nil_append _), flatten_lines]
    | cons first before =>
      rw [lines_feed rest inLine] at split
      exact ih (List.cons.inj split).2

/-- Lines of a text behind which others follow end in a feed. -/
theorem getLast?_flatten_of_append {text : List Char} {block after : List Line} (split : lines text = block ++ after)
    (more : after ≠ []) : block = [] ∨ block.flatten.getLast? = some '\n' := by
  induction text using lines_induction generalizing block with
  | nil => exact .inl (List.append_eq_nil_iff.mp split.symm).1
  | last line inLine ne =>
    rw [lines_last inLine ne] at split
    have sizes := congrArg List.length split
    have some := List.length_pos_iff.mpr more
    rw [List.length_append, List.length_singleton] at sizes
    exact .inl (List.length_eq_zero_iff.mp (by omega))
  | feed line rest inLine ih =>
    rw [lines_feed rest inLine] at split
    cases block with
    | nil => exact .inl rfl
    | cons first block =>
      obtain ⟨rfl, later⟩ := List.cons.inj split
      rcases ih later with rfl | ends
      · simp
      · rw [List.flatten_cons, List.getLast?_append, ends]
        simp

/-- Lines that end have as many feeds. -/
theorem length_lines_of_ends {text : List Char} (ends : text.getLast? = some '\n') :
    (lines text).length = text.count '\n' := by
  induction text using lines_induction with
  | nil => rfl
  | last line inLine ne => exact absurd (List.mem_of_getLast? ends) inLine
  | feed line rest inLine ih =>
    rw [lines_feed rest inLine, List.length_cons, List.count_append, List.count_eq_zero.mpr inLine, List.count_cons_self,
      Nat.zero_add]
    rcases ends_behind_feed ends with rfl | ends
    · rfl
    · rw [ih ends]

theorem foldReturns_return {rest : List Char} (apart : rest.head? ≠ some '\n') :
    foldReturns ('\r' :: rest) = '\n' :: foldReturns rest := by
  cases rest with
  | nil => rfl
  | cons c rest =>
    rw [foldReturns]
    rintro _ ⟨⟩
    exact apart rfl

/-- Returns fold piece by piece, unless a return and its feed come apart. -/
theorem foldReturns_append {before after : List Char}
    (apart : before.getLast? ≠ some '\r' ∨ after.head? ≠ some '\n') :
    foldReturns (before ++ after) = foldReturns before ++ foldReturns after := by
  have shorter {c : Char} {rest : List Char} (apart : (c :: rest).getLast? ≠ some '\r' ∨ after.head? ≠ some '\n') :
      rest.getLast? ≠ some '\r' ∨ after.head? ≠ some '\n' :=
    apart.imp_left fun last there => last (List.mem_getLast?_cons there)
  induction before using foldReturns.induct with
  | case1 => rfl
  | case2 rest ih =>
    rw [List.cons_append, List.cons_append, foldReturns, foldReturns, ih (shorter (shorter apart)), List.cons_append]
  | case3 rest noFeed ih =>
    have here : rest.head? ≠ some '\n' := fun feed => noFeed _ (List.cons_head?_tail feed).symm
    have there : (rest ++ after).head? ≠ some '\n' := by
      cases rest with
      | nil => simpa using apart
      | cons c rest => exact here
    rw [List.cons_append, foldReturns_return here, foldReturns_return there, ih (shorter apart), List.cons_append]
  | case4 c rest noPair noReturn ih =>
    rw [List.cons_append, foldReturns, foldReturns, ih (shorter apart), List.cons_append]
    · exact noPair
    · exact noReturn
    · rintro _ rfl _
      exact noReturn rfl
    · exact noReturn

theorem head?_of_foldReturns {text : List Char} {c : Char} (first : (foldReturns text).head? = some c)
    (other : c ≠ '\n') : text.head? = some c := by
  fun_cases foldReturns text with
  | case1 => exact first
  | case2 => exact absurd (Option.some.inj first).symm other
  | case3 rest noFeed =>
    rw [foldReturns] at first
    · exact absurd (Option.some.inj first).symm other
    · exact noFeed
  | case4 => simpa [foldReturns, *] using first

end AccessPolicy.Text
