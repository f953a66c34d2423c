import AccessPolicy.Proofs.Source.Regular
import AccessPolicy.Proofs.Yaml.Resting
import Mathlib.Data.List.TakeWhile

namespace AccessPolicy.Source

open Text (Line)
open Yaml (Cursor EndsLine Token endMark isBreak isGap isLineEnd)
open Yaml.Cutter (Runs resting)

/-- Whether nothing in a text is an end of lines but feeds, and no character stands for anything else than itself. -/
structure IsPlain (text : List Char) : Prop where
  ends : EndsOnFeeds text
  noOrderMark : '\ufeff' ∉ text
  noEnd : endMark ∉ text

/-- Whether a line has its feed. -/
def IsFed (line : Line) : Prop := ∃ body, line = body ++ ['\n'] ∧ '\n' ∉ body

/-- Whether there is at most one feed, at the end. -/
def IsLine (line : Line) : Prop := IsFed line ∨ '\n' ∉ line

/-- Whether a line is neither a mark of documents nor a directive. -/
structure IsQuiet (line : Line) : Prop where
  noOpening : kindBy isGap line ≠ .opening
  noClosing : kindBy isGap line ≠ .closing
  noDirective : line.head? ≠ some '%'

/-- Whether nothing but a comment follows in a line. -/
def IsBlankFrom (line : List Char) : Prop := ∀ ch ∈ (line.dropWhile (· == ' ')).head?, ch = '#' ∨ isBreak ch = true

section Lines

variable {before after text more stop line rest : List Char} {lead rests : List Line} {c d : Cursor} {k : Bool}
  {tokens : List Token}

theorem EndsOnFeeds.of_append_left (ends : EndsOnFeeds (before ++ after))
    (whole : after = [] ∨ before = [] ∨ before.getLast? = some '\n') : EndsOnFeeds before := by
  induction before with
  | nil => exact trivial
  | cons ch before ih =>
    have here := whole.imp_right fun last => last.resolve_left (List.cons_ne_nil ch before)
    obtain ⟨feed, later⟩ : (Yaml.endsLine ch (before ++ after) = true → ch = '\n') ∧ EndsOnFeeds (before ++ after) := ends
    rw [Yaml.endsLine_append here] at feed
    exact ⟨feed, ih later (Yaml.ends_tail here)⟩

theorem IsPlain.of_append (plain : IsPlain (before ++ after)) : IsPlain after :=
  ⟨plain.ends.of_append, fun member => plain.noOrderMark (List.mem_append_right _ member),
    fun member => plain.noEnd (List.mem_append_right _ member)⟩

theorem IsPlain.part (plain : IsPlain (text ++ more)) (ends : EndsLine text more) : IsPlain text :=
  ⟨plain.ends.of_append_left ends, fun member => plain.noOrderMark (List.mem_append_left _ member),
    fun member => plain.noEnd (List.mem_append_left _ member)⟩

theorem IsFed.getLast? (fed : IsFed line) : line.getLast? = some '\n' := by
  obtain ⟨body, rfl, _⟩ := fed
  simp

theorem IsFed.ne_nil (fed : IsFed line) : line ≠ [] := by
  obtain ⟨body, rfl, _⟩ := fed
  simp

/-- A feed ends its line. -/
theorem IsFed.eq_nil_of_append (fed : IsFed (before ++ after)) (feed : before.getLast? = some '\n') : after = [] := by
  obtain ⟨body, split, inLine⟩ := fed
  rcases List.eq_nil_or_concat after with none | ⟨init, last, rfl⟩
  · exact none
  · rw [List.concat_eq_append, ← List.append_assoc] at split
    obtain ⟨rfl, _⟩ := List.append_inj' split rfl
    exact absurd (List.mem_append_left _ (List.mem_of_getLast? feed)) inLine

/-- Whether a place of a line is reached where so much of it is left. -/
structure IsRestOf (line after left : List Char) (c : Cursor) : Prop where
  follows : (Cursor.start (line ++ after)).Follows c
  rest : c.rest = left ++ after

variable {left : List Char}

theorem isRestOf_start (line after : List Char) : IsRestOf line after line (.start (line ++ after)) := ⟨.refl _, rfl⟩

theorem IsRestOf.exists_before (there : IsRestOf line after left c) (plain : IsPlain (line ++ after)) :
    ∃ before, line = before ++ left ∧ (c.mark.column = 0 ↔ before = [] ∨ before.getLast? = some '\n') := by
  obtain ⟨before, split, column⟩ := column_eq_zero_iff plain.ends plain.noOrderMark there.follows
  rw [there.rest, ← List.append_assoc] at split
  exact ⟨before, List.append_cancel_right split, column⟩

/-- In the first column one is behind the line. -/
theorem IsRestOf.at_end (there : IsRestOf line after left c) (plain : IsPlain (line ++ after)) (fed : IsFed line)
    (fewer : left.length < line.length) (first : c.mark.column = 0) : c = .start after := by
  obtain ⟨before, rfl, column⟩ := there.exists_before plain
  have feed := (column.mp first).resolve_left (by rintro rfl; simp at fewer)
  have rest := there.rest
  rw [fed.eq_nil_of_append feed] at rest
  rw [Cursor.eq_start (Cursor.mark_of_follows there.follows) first, rest]
  rfl

/-- In a line the text reads as if it were cut off behind the line, where nothing more follows. -/
theorem IsRestOf.isHead (there : IsRestOf line after left c) (plain : IsPlain (line ++ after)) (fed : IsFed line)
    (inside : left ≠ []) : Cursor.IsHead after [] left c c := by
  obtain ⟨before, rfl, _⟩ := there.exists_before plain
  have tells := Cursor.mark_of_follows there.follows
  have last := fed.getLast?
  rw [List.getLast?_append_of_ne_nil _ inside] at last
  refine ⟨there.rest, by rw [there.rest, List.append_nil], rfl, tells, tells, fun none => absurd none inside, .inr last, ?_⟩
  exact fun member => plain.noEnd (by simp [member])

theorem dropWhile_append_of_head {ch : Char} {p : Char → Bool}
    (head : (left.dropWhile p).head? = some ch) (after : List Char) :
    ((left ++ after).dropWhile p).head? = some ch := by
  rw [List.dropWhile_append]
  obtain ⟨rest, split⟩ := List.head?_eq_some_iff.mp head
  simp [split]

theorem next_eq_of_head {ch : Char} (head : c.rest.head? = some ch) : c.next = ch := by
  obtain ⟨rest, here⟩ := List.head?_eq_some_iff.mp head
  simp [Cursor.next, Cursor.peek, here]

/-- Spaces and a comment end where the line does. -/
theorem IsRestOf.pastComment_breaks (there : IsRestOf line after left c)
    (plain : IsPlain (line ++ after)) (fed : IsFed line)
    (inside : left ≠ []) (blank : IsBlankFrom left) : isBreak c.pastComment.next = true := by
  have head := there.isHead plain fed inside
  obtain ⟨left₁, inside₁, _, head₁⟩ := head.pastComment_onLine inside
  obtain ⟨ch, first, kind⟩ : ∃ ch, (c.skip (· == ' ')).next = ch ∧ (ch = '#' ∨ isBreak ch = true) := by
    have feed : '\n' ∈ left := List.mem_of_getLast? (head.lines.ends.resolve_left inside)
    have some_left : left.dropWhile (· == ' ') ≠ [] := fun none => by
      simpa using List.dropWhile_eq_nil_iff.mp none _ feed
    obtain ⟨ch, more, split⟩ := List.exists_cons_of_ne_nil some_left
    refine ⟨ch, next_eq_of_head ?_, blank ch (by simp [split])⟩
    rw [Cursor.rest_skip, there.rest]
    exact dropWhile_append_of_head (by simp [split]) after
  by_cases hash : ch = '#'
  · have commented : c.pastComment = (c.skip (· == ' ')).skip (!isLineEnd ·) := by
      unfold Cursor.pastComment
      simp [first, hash]
    have part := head₁.part
    have noEnd := head₁.next_ne_end inside₁
    rw [commented] at part noEnd ⊢
    rcases (c.skip (· == ' ')).run_stops (!isLineEnd ·) with spent | stops
    · have spent : ((c.skip (· == ' ')).skip (!isLineEnd ·)).rest = [] := spent
      rw [spent] at part
      exact absurd (List.append_eq_nil_iff.mp part.symm).1 inside₁
    · change (!isLineEnd ((c.skip (· == ' ')).skip (!isLineEnd ·)).next) = false at stops
      generalize ((c.skip (· == ' ')).skip (!isLineEnd ·)).next = last at stops noEnd ⊢
      simpa [isLineEnd, noEnd] using stops
  · have stays : c.pastComment = c.skip (· == ' ') := by
      unfold Cursor.pastComment
      simp [first, hash]
    rw [stays, first]
    exact kind.resolve_left hash

/-- A line with nothing but a comment in it is passed over. -/
theorem IsRestOf.ahead_of_blank (there : IsRestOf line after left c) (plain : IsPlain (line ++ after)) (fed : IsFed line)
    (inside : left ≠ []) (blank : IsBlankFrom left) (k : Bool) :
    (resting c k).ahead = (resting (.start after) true).ahead := by
  have breaks := there.pastComment_breaks plain fed inside blank
  obtain ⟨left₁, inside₁, few₁, head₁⟩ := (there.isHead plain fed inside).pastComment_onLine inside
  obtain ⟨_, left₂, few₂, head₂⟩ := head₁.lineBreak inside₁ breaks
  have follows := (Yaml.Cutter.pastComment_follows c).trans (Cursor.follows_lineBreak _)
  have behind : IsRestOf line after left₂ c.pastComment.lineBreak.2 := ⟨there.follows.trans follows, head₂.part⟩
  have fewer : left₂.length < line.length := by
    obtain ⟨before, rfl, _⟩ := there.exists_before plain
    have some_left := List.length_pos_iff.mpr inside₁
    simp only [List.length_append]
    omega
  rw [Yaml.Cutter.ahead_of_break (s := resting c k) breaks]
  change ((resting c.pastComment.lineBreak.2 (k || !false)).ahead) = _
  rw [behind.at_end plain fed fewer (c.pastComment.column_lineBreak breaks), Bool.not_false, Bool.or_true]

/-- Where a tab stands before a token, the text is not cut. -/
theorem not_runs_of_tab (here : c.rest = left ++ after) (tab : (left.dropWhile (· == ' ')).head? = some '\t') (k : Bool) :
    ¬ Runs (resting c k) tokens := by
  have next : (c.skip (· == ' ')).next = '\t' := by
    refine next_eq_of_head ?_
    rw [Cursor.rest_skip, here]
    exact dropWhile_append_of_head tab after
  have stays : c.pastComment = c.skip (· == ' ') := by
    unfold Cursor.pastComment
    simp [next]
  exact Yaml.Cutter.not_runs_of_tab (stays ▸ next)

/-- Where there is no feed, no line ends. -/
theorem EndsOnFeeds.noBreak (ends : EndsOnFeeds text) (inLine : '\n' ∉ text) : ∀ ch ∈ text, isBreak ch = false := by
  induction text with
  | nil => simp
  | cons ch rest ih =>
    obtain ⟨noFeed, inLine⟩ := not_or.mp (mt List.mem_cons.mpr inLine)
    refine List.forall_mem_cons.mpr ⟨?_, ih ends.2 inLine⟩
    have goesOn : Yaml.endsLine ch rest = false := by
      by_contra ended
      exact noFeed (ends.1 (by simpa using ended)).symm
    have apart : rest.head? ≠ some '\n' := fun feed => inLine (List.mem_of_head? feed)
    unfold Yaml.endsLine at goesOn
    split at goesOn
    · simp [apart] at goesOn
    · exact goesOn

theorem IsLine.eq_nil_of_append (isLine : IsLine (before ++ after)) (feed : before.getLast? = some '\n') :
    after = [] := by
  rcases isLine with fed | inLine
  · exact fed.eq_nil_of_append feed
  · exact absurd (List.mem_append_left _ (List.mem_of_getLast? feed)) inLine

/-- Each line of a text has its feed, but for the last. -/
theorem line_cases (split : Text.lines text = line :: rests) : IsFed line ∨ rests = [] ∧ '\n' ∉ line := by
  cases text using Text.lines_induction with
  | nil => cases split
  | last one inLine ne =>
    rw [Text.lines_last inLine ne] at split
    cases split
    exact .inr ⟨rfl, inLine⟩
  | feed one rest inLine ih =>
    rw [Text.lines_feed rest inLine] at split
    cases split
    exact .inl ⟨one, rfl, inLine⟩

theorem isLine_of_lines (split : Text.lines text = line :: rests) : IsLine line :=
  (line_cases split).imp_right And.right

theorem feed_of_lines (split : Text.lines text = line :: rests) : rests.flatten = [] ∨ line.getLast? = some '\n' := by
  rcases line_cases split with fed | ⟨rfl, _⟩
  · exact .inr fed.getLast?
  · exact .inl rfl

/-- A line before others has its feed. -/
theorem isFed_of_lines (split : Text.lines text = lead ++ rests) (more : rests ≠ []) : ∀ line ∈ lead, IsFed line := by
  intro line member
  obtain ⟨early, late, rfl⟩ := List.append_of_mem member
  rw [List.append_assoc, List.cons_append] at split
  exact (line_cases (Text.lines_flatten_of_behind split)).resolve_right (by simp [more])

/-- At the first break of a line nothing is left of it but its feed. -/
theorem IsLine.of_break {ch : Char} (isLine : IsLine (before ++ ch :: rest)) (ends : EndsOnFeeds (ch :: rest))
    (breaks : isBreak ch = true) : rest = [] ∨ rest = ['\n'] := by
  by_cases feeds : ch = '\n'
  · subst feeds
    rw [List.append_cons] at isLine
    exact .inl (isLine.eq_nil_of_append (by simp))
  · have goesOn : Yaml.endsLine ch rest = false := by simpa using mt ends.1 feeds
    unfold Yaml.endsLine at goesOn
    split at goesOn
    · obtain ⟨late, rfl⟩ := List.head?_eq_some_iff.mp (by simpa using goesOn)
      rw [List.append_cons, List.append_cons] at isLine
      exact .inr (congrArg _ (isLine.eq_nil_of_append (by simp)))
    · simp [breaks] at goesOn

theorem dropWhile_spaces (line : List Char) : (line.dropWhile (· == ' ')).dropWhile isGap = line.dropWhile isGap := by
  have spaces : ∀ ch ∈ line.takeWhile (· == ' '), isGap ch = true := by
    intro ch member
    obtain rfl : ch = ' ' := by simpa using List.mem_takeWhile_imp member
    rfl
  have behind : (line.takeWhile (· == ' ') ++ line.dropWhile (· == ' ')).dropWhile isGap =
      (line.dropWhile (· == ' ')).dropWhile isGap := List.dropWhile_append_of_pos spaces
  rwa [List.takeWhile_append_dropWhile, eq_comm] at behind

/-- Content is not blank. -/
theorem not_blank_of_content (isLine : IsLine line) (plain : IsPlain line) (content : kindBy isGap line = .content) :
    ¬ IsBlankFrom line := by
  intro blank
  have bare : (line.dropWhile isGap).isEmpty = false ∧ (line.dropWhile isGap).head? ≠ some '#' := by
    unfold kindBy at content
    grind
  rw [← dropWhile_spaces] at bare
  have split : line.takeWhile (· == ' ') ++ line.dropWhile (· == ' ') = line := List.takeWhile_append_dropWhile
  cases first : line.dropWhile (· == ' ') with
  | nil => simp [first] at bare
  | cons ch rest =>
    rw [first] at bare split
    rcases blank ch (by simp [first]) with rfl | breaks
    · simp [isGap, Yaml.isSpaceOrEnd, isLineEnd, isBreak, endMark] at bare
    · have here : isGap ch = true := by simp [isGap, Yaml.isSpaceOrEnd, isLineEnd, breaks]
      have left := (split ▸ isLine).of_break (split ▸ plain.ends).of_append breaks
      have feed : isGap '\n' = true := rfl
      rcases left with rfl | rfl <;> simp [here, feed] at bare

/-- Where nothing ends a line, spaces and a comment go on up to the end. -/
theorem pastComment_end (here : c.rest = left) (goesOn : ∀ ch ∈ left, isLineEnd ch = false) (blank : IsBlankFrom left) :
    c.pastComment.rest = [] := by
  have spaces : (c.skip (· == ' ')).rest = left.dropWhile (· == ' ') := by rw [Cursor.rest_skip, here]
  cases first : left.dropWhile (· == ' ') with
  | nil =>
    have stays : c.pastComment = c.skip (· == ' ') := by
      unfold Cursor.pastComment
      simp [Cursor.next, Cursor.peek, spaces, first, endMark]
    rw [stays, spaces, first]
  | cons ch rest =>
    have within : ∀ other ∈ ch :: rest, isLineEnd other = false :=
      fun other member => goesOn other ((List.dropWhile_sublist _).mem (first ▸ member))
    have noBreak : isBreak ch = false := by
      have onLine := within ch List.mem_cons_self
      rw [isLineEnd, Bool.or_eq_false_iff] at onLine
      exact onLine.1
    obtain rfl := (blank ch (by simp [first])).resolve_right (by simp [noBreak])
    have commented : c.pastComment = (c.skip (· == ' ')).skip (!isLineEnd ·) := by
      unfold Cursor.pastComment
      simp [Cursor.next, Cursor.peek, spaces, first]
    rw [commented, Cursor.rest_skip, spaces, first, List.dropWhile_eq_nil_iff]
    exact fun other member => by simp [within other member]

/-- The last line of a text is passed over up to the end of the text, if it is blank but for a comment. -/
theorem IsRestOf.ahead_of_last (there : IsRestOf line [] left c) (plain : IsPlain (line ++ [])) (isLine : IsLine line)
    (blank : IsBlankFrom left) (k : Bool) : (resting c k).ahead.cursor.rest = [] := by
  obtain ⟨before, split, _⟩ := there.exists_before plain
  have here : c.rest = left := there.rest.trans (List.append_nil left)
  have spent (goesOn : ∀ ch ∈ left, isLineEnd ch = false) : (resting c k).ahead.cursor.rest = [] := by
    have ended := pastComment_end here goesOn blank
    rw [Yaml.Cutter.ahead_of_noBreak (s := resting c k)]
    · exact ended
    · change isBreak c.pastComment.next = false
      simp [Cursor.next, Cursor.peek, ended, isBreak, endMark]
  by_cases inside : left = []
  · exact spent (by simp [inside])
  · rcases isLine with fed | inLine
    · rw [there.ahead_of_blank plain fed inside blank k]
      rfl
    · rw [List.append_nil] at plain
      refine spent fun ch member => ?_
      have inside : ch ∈ line := split ▸ List.mem_append_right _ member
      have noEnd : ch ≠ endMark := by
        rintro rfl
        exact plain.noEnd inside
      rw [isLineEnd, plain.ends.noBreak inLine ch inside, beq_eq_false_iff_ne.mpr noEnd]
      rfl

/-- Where a line is not blank, a token starts in it. -/
theorem IsRestOf.ahead_of_word (there : IsRestOf line after left c) (some : ¬ IsBlankFrom left) (k : Bool) :
    ∃ left', left' ≠ [] ∧ left' <:+ left ∧ IsRestOf line after left' (c.skip (· == ' ')) ∧
      (resting c k).ahead = resting (c.skip (· == ' ')) k := by
  obtain ⟨ch, head, noComment, noBreak⟩ :
      ∃ ch, (left.dropWhile (· == ' ')).head? = .some ch ∧ ch ≠ '#' ∧ isBreak ch = false := by
    simpa [IsBlankFrom] using some
  have next : (c.skip (· == ' ')).next = ch := by
    refine next_eq_of_head ?_
    rw [Cursor.rest_skip, there.rest]
    exact dropWhile_append_of_head head after
  have stays : c.pastComment = c.skip (· == ' ') := by
    unfold Cursor.pastComment
    simp [next, noComment]
  have filled : left.dropWhile (· == ' ') ≠ [] := fun none => by simp [none] at head
  refine ⟨left.dropWhile (· == ' '), filled, List.dropWhile_suffix _, ⟨there.follows.trans (c.follows_skip _), ?_⟩, ?_⟩
  · rw [Cursor.rest_skip, there.rest, List.dropWhile_append]
    simp [filled]
  · have past : isBreak (resting c k).cursor.pastComment.next = false := by
      change isBreak c.pastComment.next = false
      rw [stays, next, noBreak]
    rw [Yaml.Cutter.ahead_of_noBreak past]
    change resting c.pastComment k = _
    rw [stays]

/-- The token that starts in a line that is not blank is no mark of documents, if none stands where the line starts. -/
theorem IsRestOf.first_inside (there : IsRestOf line after left c)
    (plain : IsPlain (line ++ after)) (isLine : IsLine line)
    (some : ¬ IsBlankFrom left)
    (allows : left = line → ∀ d, (Cursor.start (line ++ after)).Follows d → d.rest = line ++ after →
      d.Allows fun word => word.isBorder = false)
    (runs : Runs (resting c k) tokens) : ∃ first rest, tokens = first :: rest ∧ first.word.isBorder = false := by
  obtain ⟨left', filled, suffix, there', ahead⟩ := there.ahead_of_word some k
  refine runs.first_inside rfl ⟨rfl, rfl, rfl⟩ ?_
  rw [ahead]
  change (c.skip (· == ' ')).Allows _
  obtain ⟨before, split, column⟩ := there'.exists_before plain
  by_cases first : (c.skip (· == ' ')).mark.column = 0
  · rcases column.mp first with rfl | feed
    · have whole : left' = line := split.symm
      subst whole
      obtain ⟨before, split, _⟩ := there.exists_before plain
      have here : left <:+ left' := ⟨before, split.symm⟩
      exact allows (here.eq_of_length_le suffix.length_le) _ there'.follows there'.rest
    · exact absurd ((split ▸ isLine).eq_nil_of_append feed) filled
  · exact ⟨fun here => absurd here first, fun here => absurd here first, fun here => absurd here first,
      fun none => by simp [there'.rest, filled] at none⟩

/-- In the first column of some lines one of them starts, and which marks stand there is said by its kind. -/
theorem exists_line {block : List Line} (plain : IsPlain (block ++ rests).flatten)
    (cut : Text.lines (block ++ rests).flatten = block ++ rests)
    (follows : (Cursor.start (block ++ rests).flatten).Follows c)
    (before : rests.flatten.length < c.rest.length) (first : c.mark.column = 0) :
    ∃ early line late, block = early ++ line :: late ∧ c.rest = (line :: late ++ rests).flatten ∧
      (c.atDocumentMark = true ∧ c.next = '-' ↔ kindBy isGap line = .opening) ∧
      (c.atDocumentMark = true ∧ c.next = '.' ↔ kindBy isGap line = .closing) ∧
      (c.next = '%' ↔ line.head? = some '%') := by
  obtain ⟨passed, split, column⟩ := column_eq_zero_iff plain.ends plain.noOrderMark follows
  have lines := Text.lines_append c.rest (column.mp first)
  rw [← split, cut] at lines
  have here := Text.flatten_lines c.rest
  rcases List.append_eq_append_iff.mp lines with ⟨more, _, behind⟩ | ⟨more, block, behind⟩
  · rw [behind, List.flatten_append, List.length_append, here] at before
    omega
  · cases more with
    | nil =>
      rw [List.nil_append] at behind
      rw [← behind, here] at before
      omega
    | cons line late =>
      rw [behind] at here
      have inLine : (late ++ rests).flatten = [] ∨ line.getLast? = some '\n' := by
        rw [block, List.append_assoc, List.cons_append] at cut
        exact feed_of_lines (Text.lines_flatten_of_behind cut)
      have split : c.rest = line ++ (late ++ rests).flatten := here.symm
      have next : c.next = '%' ↔ line.head? = some '%' := by
        unfold Cursor.next Cursor.peek
        rw [split]
        cases line with
        | nil =>
          have spent : (late ++ rests).flatten = [] := by simpa using inLine
          simp [spent, endMark]
        | cons ch line => simp
      refine ⟨Text.lines passed, line, late, block, here.symm, ?_, ?_, next⟩
      · rw [kindBy_eq_opening_iff]
        exact atDocumentMark_iff split inLine (.inl rfl)
      · rw [kindBy_eq_closing_iff]
        exact atDocumentMark_iff split inLine (.inr rfl)

/-- In lines behind the first no token is a mark of documents if none of them is one, and neither is one in the first if it is
none either. -/
theorem allows_inside {head : Line} {body : List Line} (plain : IsPlain (head :: body ++ rests).flatten)
    (cut : Text.lines (head :: body ++ rests).flatten = head :: body ++ rests)
    (follows : (Cursor.start (head :: body ++ rests).flatten).Follows c) (before : rests.flatten.length < c.rest.length)
    (quiet : ∀ line ∈ body, IsQuiet line)
    (starts : IsQuiet head ∨ c.rest.length < (head :: body ++ rests).flatten.length) :
    c.Allows fun word => word.isBorder = false := by
  by_cases first : c.mark.column = 0
  · obtain ⟨early, line, late, block, here, opens, closes, percent⟩ := exists_line plain cut follows before first
    have quiet : IsQuiet line := by
      cases early with
      | nil =>
        cases block
        exact starts.resolve_right (by simp [here])
      | cons one early =>
        obtain ⟨rfl, rfl⟩ := List.cons.inj block
        exact quiet line (by simp)
    refine ⟨fun _ next => ?_, fun _ next marked => ?_, fun _ next marked => ?_, fun spent => ?_⟩
    · exact absurd (percent.mp next) quiet.noDirective
    · exact absurd (opens.mp ⟨marked, next⟩) quiet.noOpening
    · exact absurd (closes.mp ⟨marked, next⟩) quiet.noClosing
    · simp [spent] at before
  · refine ⟨fun here => absurd here first, fun here => absurd here first, fun here => absurd here first, fun spent => ?_⟩
    simp [spent] at before

theorem isQuiet_of_content (content : kindBy isGap line = .content) : IsQuiet line := by
  refine ⟨by simp [content], by simp [content], fun percent => ?_⟩
  unfold kindBy at content
  simp [percent] at content
  grind

/-- Where a line with content starts, no mark of documents is the first token. -/
theorem first_of_content (plain : IsPlain (line :: rests).flatten)
    (cut : Text.lines (line :: rests).flatten = line :: rests)
    (content : kindBy isGap line = .content) (runs : Runs (resting (.start (line :: rests).flatten) k) tokens) :
    ∃ first others, tokens = first :: others ∧ first.word.isBorder = false := by
  have isLine : IsLine line := isLine_of_lines cut
  have alone : IsPlain line := plain.part ((feed_of_lines cut).imp_right .inr)
  refine (isRestOf_start line rests.flatten).first_inside plain isLine (not_blank_of_content isLine alone content) ?_ runs
  intro _ d follows here
  refine allows_inside (show IsPlain ([line] ++ rests).flatten from plain) cut follows ?_ (by simp)
    (.inl (isQuiet_of_content content))
  have some : line ≠ [] := fun none => by simp [none, kindBy, hasMarkBy] at content
  have longer := List.length_pos_iff.mpr some
  rw [here, List.length_append]
  omega

end Lines

end AccessPolicy.Source
