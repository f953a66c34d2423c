import AccessPolicy.Proofs.Yaml.Padding

namespace AccessPolicy.Yaml

/-- A piece of what is told: words, or the number of a line. -/
inductive Piece where
  | words (text : String)
  | line (number : Nat)
deriving DecidableEq, Repr

/-- A piece in words. -/
def Piece.text : Piece → String
  | words text => text
  | line number => toString number

/-- A piece with the number of a line so many lines further down. -/
def Piece.behind (n : Nat) : Piece → Piece
  | words text => words text
  | line number => line (n + number)

/-- Pieces that stand in a row, in words. -/
def Piece.row (pieces : List Piece) : String := String.join (pieces.map Piece.text)

/-- What is told of a place: words around the number of its line. -/
def Mark.pieces (text : List Char) (m : Mark) : List Piece :=
  [.words "  in \"<unicode string>\", line ", .line (m.line text + 1),
    .words s!", column {m.column + 1}:\n{m.snippet text}"]

/-- What is told of a fault, each paragraph in pieces. -/
def Fault.pieces (text : List Char) (f : Fault) : List (List Piece) :=
  let opening := match f.during with
    | none => []
    | some (activity, none) => [[.words activity.text]]
    | some (activity, some began) =>
      if began.line text = f.place.line text ∧ began.column = f.place.column then [[.words activity.text]]
      else [[.words activity.text], began.pieces text]
  opening ++ [[.words f.problem.text], f.place.pieces text]

/-- What is told of a failure, each paragraph in pieces. -/
def Failure.pieces? (text : List Char) : Failure → Option (List (List Piece))
  | form fault => some (fault.pieces text)
  | failure => (failure.message? text).map fun words => [[.words words]]

/-- Paragraphs in pieces, in words. -/
def tell (paragraphs : List (List Piece)) : String := String.intercalate "\n" (paragraphs.map Piece.row)

/-- Paragraphs with all numbers of lines so many lines further down. -/
def tellBehind (n : Nat) (paragraphs : List (List Piece)) : String := tell (paragraphs.map (List.map (Piece.behind n)))

variable {text : List Char}

theorem row_words (words : String) : Piece.row [.words words] = words := by
  simp [Piece.row, Piece.text, String.join]

theorem render_eq_row (m : Mark) : m.render text = Piece.row (m.pieces text) := by
  unfold Mark.render Mark.pieces Piece.row
  generalize m.snippet text = snippet
  generalize m.line text + 1 = line
  generalize m.column + 1 = column
  simp [Piece.text, String.join, String.append_assoc, toString]

/-- What is told of a fault, paragraph by paragraph, whatever words, the problem and places are told as. -/
def Fault.paragraphs {γ : Type} (text : List Char) (words : String → γ) (problem : Problem → γ) (place : Mark → γ)
    (f : Fault) : List γ :=
  let opening := match f.during with
    | none => []
    | some (activity, none) => [words activity.text]
    | some (activity, some began) =>
      if began.line text = f.place.line text ∧ began.column = f.place.column then [words activity.text]
      else [words activity.text, place began]
  opening ++ [problem f.problem, place f.place]

/-- What is said of a fault is what its paragraphs come to, if each comes to what is said of it. -/
theorem message_eq_paragraphs {γ : Type} {row : γ → String} {words : String → γ} {problem : Problem → γ}
    {place : Mark → γ} (ofWords : ∀ w, row (words w) = w) (ofProblem : ∀ p, row (problem p) = p.text)
    (ofPlace : ∀ m, row (place m) = m.render text) (f : Fault) :
    f.message text = String.intercalate "\n" ((f.paragraphs text words problem place).map row) := by
  obtain ⟨level, during, trouble, spot⟩ := f
  unfold Fault.message Fault.paragraphs
  rw [List.map_append]
  rcases during with _ | ⟨activity, _ | began⟩
  · simp only [List.map_cons, List.map_nil, ofProblem, ofPlace]
  · simp only [List.map_cons, List.map_nil, ofWords, ofProblem, ofPlace]
  · dsimp only
    split <;> simp only [List.map_cons, List.map_nil, ofWords, ofProblem, ofPlace]

theorem message_eq_tell (f : Fault) : f.message text = tell (f.pieces text) :=
  message_eq_paragraphs row_words (fun problem => row_words problem.text) (fun place => (render_eq_row place).symm) f

/-- What is said of a failure is what is told of it in pieces. -/
theorem message_eq_map_tell (failure : Failure) : failure.message? text = (failure.pieces? text).map tell := by
  have whole (words : Option String) : words = (words.map fun words => [[Piece.words words]]).map tell := by
    cases words with
    | none => rfl
    | some words => simp [tell, row_words]
  cases failure with
  | character c position => exact whole _
  | form fault => exact congrArg some (message_eq_tell fault)
  | scalar fault => exact whole _

section Behind

/-- Whether no more characters and line ends are left from a place on than a text has. -/
structure Mark.Within (text : List Char) (m : Mark) : Prop where
  chars : m.charsLeft ≤ text.length
  lines : m.linesLeft ≤ countBreaks text

theorem within_advance {c : Cursor} (within : c.mark.Within text) : c.advance.mark.Within text := by
  obtain ⟨chars, lines⟩ := within
  unfold Cursor.advance
  split
  · exact ⟨chars, lines⟩
  · split
    · exact ⟨by dsimp only; omega, by dsimp only; omega⟩
    · split
      · exact ⟨by dsimp only; omega, lines⟩
      · exact ⟨by dsimp only; omega, lines⟩

theorem start_ahead_within (text : List Char) : (Cursor.start text).Ahead (Mark.Within text) :=
  fun _ follows => follows.keeps (P := fun d => d.mark.Within text) (fun _ => within_advance)
    ⟨Nat.le_refl _, Nat.le_refl _⟩

theorem countBreaks_padded (n : Nat) (text : List Char) : countBreaks (padded n text) = n + countBreaks text := by
  induction n with
  | zero => rw [Nat.zero_add]; rfl
  | succ n ih =>
    have feed : endsLine '\n' (padded n text) = true := by simp [endsLine, isBreak]
    rw [padded_succ, countBreaks, feed, ih, if_pos rfl]
    omega

variable {m : Mark}

theorem line_padded (n : Nat) (within : m.Within text) : m.line (padded n text) = n + m.line text := by
  unfold Mark.line
  rw [countBreaks_padded]
  have lines := within.lines
  omega

theorem index_padded (n : Nat) (within : m.Within text) : m.index (padded n text) = n + m.index text := by
  unfold Mark.index
  rw [length_padded]
  have chars := within.chars
  omega

/-- The line around a place starts behind the empty lines. -/
theorem snippet_padded (n : Nat) (within : m.Within text) : m.snippet (padded n text) = m.snippet text := by
  have after : (padded n text).drop (n + m.index text) = text.drop (m.index text) := by
    rw [padded, ← List.drop_drop, List.drop_left' (by simp)]
  have before : ((padded n text).take (n + m.index text)).reverse.takeWhile (!isLineEnd ·) =
      (text.take (m.index text)).reverse.takeWhile (!isLineEnd ·) := by
    have taken : (padded n text).take (n + m.index text) = List.replicate n '\n' ++ text.take (m.index text) := by
      rw [padded, List.take_append, List.take_of_length_le (by simp), List.length_replicate, Nat.add_sub_cancel_left]
    have feeds : (List.replicate n '\n').takeWhile (!isLineEnd ·) = [] := by
      cases n with
      | zero => rfl
      | succ n => rfl
    rw [taken, List.reverse_append, List.reverse_replicate, List.takeWhile_append, feeds, List.append_nil]
    split
    · rename_i whole
      exact ((List.takeWhile_prefix _).eq_of_length whole).symm
    · rfl
  unfold Mark.snippet
  rw [index_padded n within, after, before]

theorem pieces_padded (n : Nat) (within : m.Within text) :
    m.pieces (padded n text) = (m.pieces text).map (Piece.behind n) := by
  unfold Mark.pieces
  rw [line_padded n within, snippet_padded n within]
  rfl

theorem fault_pieces_padded (n : Nat) {fault : Fault} (within : fault.Places (Mark.Within text)) :
    fault.pieces (padded n text) = (fault.pieces text).map (List.map (Piece.behind n)) := by
  have place := pieces_padded n within.place
  obtain ⟨level, during, problem, spot⟩ := fault
  rcases during with _ | ⟨activity, _ | began⟩
  · simp [Fault.pieces, place, Piece.behind]
  · simp [Fault.pieces, place, Piece.behind]
  · have started : began.Within text := within.began activity began rfl
    have here : spot.Within text := within.place
    unfold Fault.pieces
    simp only [line_padded n started, line_padded n here, Nat.add_left_cancel_iff]
    split
    · simp [place, Piece.behind]
    · simp [place, Piece.behind, pieces_padded n started]

/-- The same is told behind empty lines, with numbers of lines that are larger by as many. -/
theorem failure_pieces_padded (n : Nat) {failure : Failure} (within : failure.Places (Mark.Within text)) :
    failure.pieces? (padded n text) = (failure.pieces? text).map (List.map (List.map (Piece.behind n))) := by
  cases failure with
  | character c position => exact absurd within id
  | form fault => exact congrArg some (fault_pieces_padded n within)
  | scalar fault =>
    unfold Failure.pieces?
    rw [Option.map_map]
    rfl

end Behind

end AccessPolicy.Yaml
