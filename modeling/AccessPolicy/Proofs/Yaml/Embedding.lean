import AccessPolicy.Proofs.Yaml.Telling

namespace AccessPolicy.Yaml

/-- A text in a longer one. It begins where a line does, and it ends where a line does or where the longer one ends. -/
structure IsBlock (before text after : List Char) : Prop where
  begins : before = [] ∨ before.getLast? = some '\n'
  ends : after = [] ∨ text.getLast? = some '\n'

/-- The mark of a place so many characters behind the start of a text. -/
def markAt (text : List Char) (i : Nat) : Mark := ((Cursor.start text).advanceBy i).mark

/-- Whether a mark is that of a place of a text. -/
def Mark.IsIn (text : List Char) (m : Mark) : Prop := ∃ i ≤ text.length, m = markAt text i

section Breaks

variable {ch : Char} {rest text after : List Char}

/-- What follows a text makes no difference to where its lines end, if its last line ends in a feed. -/
theorem endsLine_append (ends : after = [] ∨ (ch :: rest).getLast? = some '\n') :
    endsLine ch (rest ++ after) = endsLine ch rest := by
  cases rest with
  | nil =>
    rcases ends with rfl | last
    · rfl
    · obtain rfl : ch = '\n' := by simpa using last
      simp [endsLine]
  | cons d rest => rfl

theorem ends_tail (ends : after = [] ∨ (ch :: rest).getLast? = some '\n') :
    after = [] ∨ rest = [] ∨ rest.getLast? = some '\n' := by
  cases rest with
  | nil => exact .inr (.inl rfl)
  | cons d rest => exact ends.imp_right fun last => .inr (by simpa using last)

theorem countBreaks_append (ends : after = [] ∨ text = [] ∨ text.getLast? = some '\n') :
    countBreaks (text ++ after) = countBreaks text + countBreaks after := by
  induction text with
  | nil => simp [countBreaks]
  | cons ch rest ih =>
    have here := ends.imp_right fun last => last.resolve_left (List.cons_ne_nil ch rest)
    rw [List.cons_append, countBreaks, countBreaks, endsLine_append here, ih (ends_tail here), Nat.add_assoc]

theorem countBreaks_of_ends {before : List Char} (begins : before = [] ∨ before.getLast? = some '\n') (text : List Char) :
    countBreaks (before ++ text) = countBreaks before + countBreaks text :=
  countBreaks_append (.inr begins)

end Breaks

namespace Cursor

theorem rest_advanceBy (n : Nat) (c : Cursor) : (c.advanceBy n).rest = c.rest.drop n := by
  induction n generalizing c with
  | zero => rfl
  | succ n ih => rw [advanceBy, ih, rest_advance, List.drop_tail]

/-- Whether the mark of a place tells how much text is left from there. -/
structure Tells (c : Cursor) : Prop where
  chars : c.mark.charsLeft = c.rest.length
  lines : c.mark.linesLeft = countBreaks c.rest

theorem start_tells (text : List Char) : (start text).Tells := ⟨rfl, rfl⟩

theorem Tells.advance {c : Cursor} (tells : c.Tells) : c.advance.Tells := by
  obtain ⟨chars, lines⟩ := tells
  cases rest : c.rest with
  | nil =>
    have stays : c.advance = c := by simp [Cursor.advance, rest]
    rw [stays]
    exact ⟨chars, lines⟩
  | cons ch more =>
    rw [rest, List.length_cons] at chars
    rw [rest, countBreaks] at lines
    unfold Cursor.advance
    rw [rest]
    dsimp only
    split <;> rename_i spent <;> simp only [spent] at lines
    · exact ⟨by simp [chars], by simp [lines]⟩
    · split <;> exact ⟨by simp [chars], by simpa using lines⟩

/-- Marks tell what is left of the text. -/
theorem mark_of_follows {text : List Char} {c : Cursor} (follows : (start text).Follows c) : c.Tells :=
  follows.keeps (P := Tells) (fun _ tells => tells.advance) (start_tells text)

/-- What follows a text makes no difference to the columns in it. -/
theorem column_advanceBy {after : List Char} {c d : Cursor} (rest : d.rest = c.rest ++ after)
    (column : d.mark.column = c.mark.column) (ends : after = [] ∨ c.rest = [] ∨ c.rest.getLast? = some '\n') {n : Nat}
    (within : n ≤ c.rest.length) : (d.advanceBy n).mark.column = (c.advanceBy n).mark.column := by
  induction n generalizing c d with
  | zero => exact column
  | succ n ih =>
    cases here : c.rest with
    | nil => simp [here] at within
    | cons ch more =>
      rw [here] at rest ends within
      have ends := ends.imp_right fun last => last.resolve_left (List.cons_ne_nil ch more)
      have same : d.advance.mark.column = c.advance.mark.column := by
        unfold advance
        rw [rest, here]
        dsimp only [List.cons_append]
        rw [endsLine_append ends]
        split
        · rfl
        · split <;> simp [column]
      refine @ih c.advance d.advance ?_ same ?_ ?_
      · rw [rest_advance, rest_advance, rest, here]
        rfl
      · rw [rest_advance, here]
        exact ends_tail ends
      · rw [rest_advance, here]
        simpa using within

theorem column_behind {before : List Char} (begins : before = [] ∨ before.getLast? = some '\n') (text : List Char) :
    ((start (before ++ text)).advanceBy before.length).mark.column = 0 := by
  rcases begins with rfl | last
  · rfl
  · obtain ⟨init, rfl⟩ := List.getLast?_eq_some_iff.mp last
    rw [List.length_append, List.length_singleton, ← advanceBy_advanceBy]
    have here : ((start (init ++ ['\n'] ++ text)).advanceBy init.length).rest = '\n' :: text := by
      simp [rest_advanceBy, start]
    show (advance _).mark.column = 0
    unfold advance
    rw [here]
    rfl

/-- Behind lines that end, a text starts like any other. -/
theorem start_advanceBy {before : List Char} (begins : before = [] ∨ before.getLast? = some '\n') (text : List Char) :
    (start (before ++ text)).advanceBy before.length = start text := by
  have rest : ((start (before ++ text)).advanceBy before.length).rest = text := by simp [rest_advanceBy, start]
  obtain ⟨chars, lines⟩ := mark_of_follows (follows_advanceBy before.length (start (before ++ text)))
  have column := column_behind begins text
  generalize (start (before ++ text)).advanceBy before.length = c at rest chars lines column
  obtain ⟨_, _, _, _⟩ := c
  simp_all [start]

end Cursor

section Places

variable {text : List Char} {i : Nat}

theorem charsLeft_markAt (text : List Char) (i : Nat) : (markAt text i).charsLeft = text.length - i := by
  rw [markAt, (Cursor.mark_of_follows (Cursor.follows_advanceBy i _)).chars, Cursor.rest_advanceBy, List.length_drop]
  rfl

theorem linesLeft_markAt (text : List Char) (i : Nat) : (markAt text i).linesLeft = countBreaks (text.drop i) := by
  rw [markAt, (Cursor.mark_of_follows (Cursor.follows_advanceBy i _)).lines, Cursor.rest_advanceBy]
  rfl

theorem start_ahead_isIn (text : List Char) : (Cursor.start text).Ahead (Mark.IsIn text) := by
  intro d follows
  have reached : ∃ i ≤ text.length, d = (Cursor.start text).advanceBy i := by
    refine follows.keeps (P := fun d => ∃ i ≤ text.length, d = (Cursor.start text).advanceBy i) ?_ ⟨0, Nat.zero_le _, rfl⟩
    rintro _ ⟨i, within, rfl⟩
    by_cases more : i < text.length
    · exact ⟨i + 1, more, (Cursor.advanceBy_advanceBy i 1 _)⟩
    · refine ⟨i, within, ?_⟩
      have none : ((Cursor.start text).advanceBy i).rest = [] := by
        rw [Cursor.rest_advanceBy]
        exact List.drop_eq_nil_of_le (Nat.le_of_not_lt more)
      generalize (Cursor.start text).advanceBy i = c at none
      simp [Cursor.advance, none]
  obtain ⟨i, within, rfl⟩ := reached
  exact ⟨i, within, rfl⟩

end Places

namespace IsBlock

variable {before text after : List Char} {i : Nat}

theorem ends_drop (block : IsBlock before text after) (i : Nat) :
    after = [] ∨ text.drop i = [] ∨ (text.drop i).getLast? = some '\n' := by
  refine block.ends.imp_right fun last => ?_
  rw [List.getLast?_drop, List.drop_eq_nil_iff]
  by_cases past : text.length ≤ i
  · exact .inl past
  · exact .inr (by rw [if_neg past, last])

theorem column_markAt (block : IsBlock before text after) (within : i ≤ text.length) :
    (markAt (before ++ (text ++ after)) (before.length + i)).column = (markAt text i).column := by
  unfold markAt
  rw [← Cursor.advanceBy_advanceBy, Cursor.start_advanceBy block.begins]
  exact Cursor.column_advanceBy (c := .start text) (d := .start (text ++ after)) rfl rfl (block.ends.imp_right .inr) within

theorem line_markAt (block : IsBlock before text after) (within : i ≤ text.length) :
    (markAt (before ++ (text ++ after)) (before.length + i)).line (before ++ (text ++ after)) =
      countBreaks before + (markAt text i).line text := by
  have left : (before ++ (text ++ after)).drop (before.length + i) = text.drop i ++ after := by
    rw [← List.drop_drop, List.drop_left, List.drop_append_of_le_length within]
  have fewer := (start_ahead_within text _ (Cursor.follows_advanceBy i _)).lines
  change (markAt text i).linesLeft ≤ _ at fewer
  unfold Mark.line
  rw [linesLeft_markAt] at fewer
  rw [linesLeft_markAt, linesLeft_markAt, left, countBreaks_of_ends block.begins, countBreaks_append (block.ends_drop i),
    countBreaks_append (block.ends.imp_right .inr)]
  omega

/-- How far a place is from the end of the text tells where it is in the longer one. -/
theorem index_markAt (before after : List Char) (within : i ≤ text.length) :
    (before ++ (text ++ after)).length - ((markAt text i).charsLeft + after.length) = before.length + i := by
  rw [charsLeft_markAt]
  simp only [List.length_append]
  omega

end IsBlock

end AccessPolicy.Yaml
