import AccessPolicy.Proofs.Yaml.Embedding

namespace AccessPolicy.Yaml

/-- A piece of what is told: words, the line and column of a place, the position of a character, or words about a position
in a value. How many characters of the text are left is not told, but says which place is meant. -/
inductive Quote where
  | words (text : String)
  | mark (line column charsLeft : Nat)
  | position (index charsLeft : Nat)
  | inside (text : String)
deriving DecidableEq, Repr

/-- A piece in words. -/
def Quote.text : Quote → String
  | words text => text
  | mark line column _ => s!"{line}, column {column}"
  | position index _ => toString index
  | inside text => text

/-- Pieces that stand in a row, in words. -/
def Quote.row (quotes : List Quote) : String := String.join (quotes.map Quote.text)

/-- Paragraphs in pieces, in words. -/
def Quote.tell (paragraphs : List (List Quote)) : String := String.intercalate "\n" (paragraphs.map Quote.row)

/-- Whether what is quoted is the place that is meant, in a whole that goes on behind the text for so many characters. A
position in a value is no place of the whole. -/
def Quote.Designates (whole : List Char) (behind : Nat) : Quote → Prop
  | words _ => True
  | mark line column charsLeft =>
    line = (markAt whole (whole.length - (charsLeft + behind))).line whole + 1 ∧
      column = (markAt whole (whole.length - (charsLeft + behind))).column + 1
  | position index charsLeft => index = whole.length - (charsLeft + behind)
  | inside _ => False

/-- What is told of a place. -/
def Mark.quotes (text : List Char) (m : Mark) : List Quote :=
  [.words "  in \"<unicode string>\", line ", .mark (m.line text + 1) (m.column + 1) m.charsLeft,
    .words s!":\n{m.snippet text}"]

/-- Whether the wording of a problem counts the characters of a value. -/
def Problem.countsInside : Problem → Bool
  | brokenAddress _ | notAscii .. => true
  | _ => false

/-- What is told of a problem. -/
def Problem.quote (p : Problem) : Quote := if p.countsInside then .inside p.text else .words p.text

/-- What is told of a fault, each paragraph in pieces. -/
def Fault.quotes (text : List Char) (f : Fault) : List (List Quote) :=
  let opening := match f.during with
    | none => []
    | some (activity, none) => [[.words activity.text]]
    | some (activity, some began) =>
      if began.line text = f.place.line text ∧ began.column = f.place.column then [[.words activity.text]]
      else [[.words activity.text], began.quotes text]
  opening ++ [[f.problem.quote], f.place.quotes text]

/-- What is told of a failure, each paragraph in pieces. -/
def Failure.quotes? (text : List Char) : Failure → Option (List (List Quote))
  | character c position =>
    some [[.words s!"unacceptable character #x{String.ofList (Text.hex 4 c.toNat)}: special characters are not allowed\n  in \"<unicode string>\", position ",
      .position position (text.length - position)]]
  | form fault => some (fault.quotes text)
  | scalar fault => fault.message?.map fun words => [[.words words]]

section Telling

variable {text : List Char}

theorem quotes_words (words : String) : Quote.row [.words words] = words := by
  simp [Quote.row, Quote.text, String.join]

theorem render_eq_quotes (m : Mark) : m.render text = Quote.row (m.quotes text) := by
  unfold Mark.render Mark.quotes Quote.row
  generalize m.snippet text = snippet
  generalize m.line text + 1 = line
  generalize m.column + 1 = column
  simp [Quote.text, String.join, String.append_assoc, toString]

theorem problem_eq_quote (p : Problem) : p.text = Quote.row [p.quote] := by
  unfold Problem.quote
  split <;> simp [Quote.row, Quote.text, String.join]

theorem message_eq_quotes (f : Fault) : f.message text = Quote.tell (f.quotes text) :=
  message_eq_paragraphs quotes_words (fun problem => (problem_eq_quote problem).symm)
    (fun place => (render_eq_quotes place).symm) f

/-- What is said of a failure is what is told of it in pieces. -/
theorem message_eq_map_quotes (failure : Failure) : failure.message? text = (failure.quotes? text).map Quote.tell := by
  cases failure with
  | character c position =>
    simp [Failure.message?, Failure.quotes?, Quote.tell, Quote.row, Quote.text, String.join, String.append_assoc, toString]
  | form fault => exact congrArg some (message_eq_quotes fault)
  | scalar fault =>
    cases said : fault.message? with
    | none => simp [Failure.message?, Failure.quotes?, said]
    | some words => simp [Failure.message?, Failure.quotes?, said, Quote.tell, quotes_words]

end Telling

section Places

variable {before text after : List Char} {n : Nat} {m : Mark}

/-- A place is told as that of the whole exactly if as many lines end before the text as it is loaded behind. -/
theorem designates_mark_iff (block : IsBlock before text after) (inText : m.IsIn text) :
    (∀ q ∈ m.quotes (padded n text), q.Designates (before ++ (text ++ after)) after.length) ↔ n = countBreaks before := by
  obtain ⟨i, within, rfl⟩ := inText
  have inside : (markAt text i).Within text := start_ahead_within text _ (Cursor.follows_advanceBy i _)
  simp only [Mark.quotes, List.forall_mem_cons, Quote.Designates, IsBlock.index_markAt before after within,
    block.line_markAt within, block.column_markAt within, line_padded n inside]
  simp

@[simp] theorem designates_words (words : String) (whole : List Char) (behind : Nat) :
    (Quote.words words).Designates whole behind := trivial

theorem designates_problem_iff (p : Problem) (whole : List Char) (behind : Nat) :
    p.quote.Designates whole behind ↔ p.countsInside = false := by
  unfold Problem.quote
  split <;> simp_all [Quote.Designates]

/-- What is told of a fault quotes places of the whole exactly if as many lines end before the text as it is loaded
behind, and no position in a value is told. -/
theorem designates_fault_iff (block : IsBlock before text after) {fault : Fault} (places : fault.Places (Mark.IsIn text)) :
    (∀ q ∈ (fault.quotes (padded n text)).flatten, q.Designates (before ++ (text ++ after)) after.length) ↔
      n = countBreaks before ∧ fault.problem.countsInside = false := by
  have place := @designates_mark_iff before text after n _ block places.place
  have problem := designates_problem_iff fault.problem (before ++ (text ++ after)) after.length
  obtain ⟨level, during, trouble, spot⟩ := fault
  rcases during with _ | ⟨activity, _ | began⟩
  · simp [Fault.quotes, place, problem, or_imp, forall_and, and_comm]
  · simp [Fault.quotes, place, problem, or_imp, forall_and, and_comm]
  · have started := @designates_mark_iff before text after n _ block (places.began activity began rfl)
    unfold Fault.quotes
    dsimp only
    split
    · simp [place, problem, or_imp, forall_and, and_comm]
    · simp [place, started, problem, or_imp, forall_and, and_comm]

theorem firstForbidden_lt {c : Char} {position : Nat} (found : firstForbidden? text = some (c, position)) :
    position < text.length := by
  unfold firstForbidden? at found
  split at found
  · cases found
  · rename_i _ ch rest left
    obtain ⟨-, rfl⟩ := Prod.mk.inj (Option.some.inj found)
    have whole := congrArg List.length (List.takeWhile_append_dropWhile (p := isAllowed) (l := text))
    rw [left, List.length_append, List.length_cons] at whole
    omega

/-- The position of a character is told as that in the whole exactly if as many characters stand before the text as it
is loaded behind. -/
theorem designates_character_iff {c : Char} {position : Nat}
    (found : firstForbidden? (padded n text) = some (c, position)) :
    (Quote.position position ((padded n text).length - position)).Designates (before ++ (text ++ after)) after.length ↔
      n = before.length := by
  rw [firstForbidden_padded, Option.map_eq_some_iff] at found
  obtain ⟨⟨c, i⟩, found, same⟩ := found
  obtain ⟨rfl, rfl⟩ := Prod.mk.inj same
  have within := firstForbidden_lt found
  simp only [Quote.Designates, length_padded, List.length_append]
  omega

/-- Whether the places that are told of a failure are those of the whole, if the text is loaded behind so many empty lines
and other text stands before it. -/
def Failure.IsPlaced (n : Nat) (before : List Char) : Failure → Prop
  | character .. => n = before.length
  | form fault => n = countBreaks before ∧ fault.problem.countsInside = false
  | scalar _ => True

theorem designates_failure_iff (block : IsBlock before text after) {failure : Failure} {quotes : List (List Quote)}
    (failed : load (padded n text) = .error failure) (told : failure.quotes? (padded n text) = some quotes) :
    (∀ q ∈ quotes.flatten, q.Designates (before ++ (text ++ after)) after.length) ↔ failure.IsPlaced n before := by
  cases found : firstForbidden? (padded n text) with
  | some character =>
    obtain ⟨c, position⟩ := character
    rw [load_of_forbidden found] at failed
    obtain rfl := Except.error.inj failed
    obtain rfl := Option.some.inj told
    simpa [Failure.IsPlaced] using designates_character_iff found
  | none =>
    have places := (meets_load_padded n (start_ahead_isIn text) found).of_error failed
    cases failure with
    | character c position => exact absurd places id
    | form fault =>
      obtain rfl := Option.some.inj told
      exact designates_fault_iff block places
    | scalar fault =>
      obtain ⟨words, -, rfl⟩ := Option.map_eq_some_iff.mp told
      simp [Failure.IsPlaced]

end Places

end AccessPolicy.Yaml
