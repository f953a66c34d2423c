import AccessPolicy.Proofs.Source.Blocks
import AccessPolicy.Proofs.Source.Composition

namespace AccessPolicy.Source

open Text (Line Decodes)

/-- The lines of a document that a mark opens. They are one part: no other document begins among them. -/
structure IsMarked (lines : List Line) : Prop where
  opens : lines.head?.map lineKind = some .opening
  one : (parts lines).length = 1

namespace Pending

variable {p q : Pending} {lines : List Line}

theorem step_congr (same : p.hasContent = q.hasContent) (line : Line) :
    (p.step line).1.hasContent = (q.step line).1.hasContent ∧
      (p.step line).2.toList.length = (q.step line).2.toList.length := by
  cases kind : lineKind line with
  | opening =>
    rw [step_opening kind, step_opening kind]
    cases content : q.hasContent <;> simp [same, content, part?]
  | closing =>
    rw [step_closing kind, step_closing kind]
    cases content : q.hasContent <;> simp [same, content, part?, startingAt]
  | prologue => simp [step_prologue kind, same]
  | content => simp [step_content kind]

/-- How many parts there are depends only on whether one has begun. -/
theorem length_parts_congr (same : p.hasContent = q.hasContent) (lines : List Line) :
    (p.parts lines).length = (q.parts lines).length := by
  induction lines generalizing p q with
  | nil => cases content : q.hasContent <;> simp [parts, run, part?, same, content]
  | cons line rest ih =>
    obtain ⟨next, ended⟩ := step_congr same line
    rw [parts_cons, parts_cons, List.length_append, List.length_append, ih next, ended]

/-- What has begun becomes a part. -/
theorem length_parts_pos (content : p.hasContent = true) (lines : List Line) : 1 ≤ (p.parts lines).length := by
  induction lines generalizing p with
  | nil => simp [parts, run, part?, content]
  | cons line rest ih =>
    rw [parts_cons, List.length_append]
    cases kind : lineKind line with
    | opening => simp [step_opening kind, content, part?]
    | closing => simp [step_closing kind, content, part?]
    | prologue =>
      have later := @ih ⟨p.start, line :: p.seen, p.hasContent⟩ content
      simpa [step_prologue kind] using later
    | content =>
      have later := @ih ⟨p.start, line :: p.seen, true⟩ rfl
      simpa [step_content kind] using later

/-- What has begun goes on as long as no line closes it. -/
theorem hasContent_run (content : p.hasContent = true) (unclosed : ∀ line ∈ lines, lineKind line ≠ .closing) :
    (p.run lines).2.hasContent = true := by
  induction lines generalizing p with
  | nil => exact content
  | cons line rest ih =>
    obtain ⟨here, later⟩ := List.forall_mem_cons.mp unclosed
    rw [run_cons]
    refine ih ?_ later
    cases kind : lineKind line with
    | opening => simp [step_opening kind, content]
    | closing => exact absurd kind here
    | prologue => simp [step_prologue kind, content]
    | content => simp [step_content kind]

theorem run_isPrefix_parts (p : Pending) {before lines : List Line} (first : before <+: lines) :
    (p.run before).1 <+: p.parts lines := by
  obtain ⟨after, rfl⟩ := first
  rw [parts_append]
  exact List.prefix_append ..

/-- A document is one more part behind what has begun. -/
theorem length_parts_of_isMarked (p : Pending) (marked : IsMarked lines) :
    (p.parts lines).length = p.part?.toList.length + 1 := by
  obtain ⟨line, first, kind⟩ := Option.map_eq_some_iff.mp marked.opens
  obtain ⟨rest, rfl⟩ := List.head?_eq_some_iff.mp first
  have one := marked.one
  rw [Source.parts, parts_cons, step_opening kind] at one
  have begun (start : Nat) (seen : List Line) : (parts ⟨start, seen, true⟩ rest).length = 1 := by
    have same : (parts ⟨start, seen, true⟩ rest).length = (parts ⟨0, [line], true⟩ rest).length :=
      length_parts_congr (by rfl) rest
    simpa [same, startingAt] using one
  rw [parts_cons, step_opening kind]
  cases content : p.hasContent <;> simp [content, part?, begun]

/-- Each document is one more part. -/
theorem length_parts_flatten (p : Pending) {documents : List (List Line)}
    (marked : ∀ document ∈ documents, IsMarked document) :
    (p.parts documents.flatten).length = p.part?.toList.length + documents.length := by
  induction documents generalizing p with
  | nil => simp [parts, run]
  | cons document rest ih =>
    obtain ⟨here, later⟩ := List.forall_mem_cons.mp marked
    have one := p.length_parts_of_isMarked here
    rw [parts, List.length_append] at one
    rw [List.flatten_cons, parts_append, List.length_append, ih _ later, List.length_cons]
    omega

end Pending

theorem head?_of_opening {line : Line} (opens : lineKind line = .opening) : line.head? = some '-' := by
  have marked : hasMark ['-', '-', '-'] line = true := by
    unfold lineKind at opens
    split_ifs at opens with mark
    exact mark
  obtain ⟨rest, rfl⟩ := List.isPrefixOf_iff_prefix.mp (Bool.and_eq_true_iff.mp marked).1
  rfl

/-- A document as it stands in a file: its bytes and their text. -/
structure StoredDocument where
  bytes : List UInt8
  text : List Char
  decoded : Text.decode bytes = .ok text
  marked : IsMarked (textLines text)

namespace StoredDocument

/-- Whether the last line of a document is complete. -/
def EndsLine (d : StoredDocument) : Prop := (Text.foldReturns d.text).getLast? = some '\n'

/-- The bytes of documents. -/
def bytesOf (documents : List StoredDocument) : List UInt8 := documents.flatMap bytes

/-- The text of documents. -/
def textOf (documents : List StoredDocument) : List Char := documents.flatMap text

/-- The lines of documents. -/
def linesOf (documents : List StoredDocument) : List Line := (documents.map fun d => textLines d.text).flatten

theorem head?_text (d : StoredDocument) : d.text.head? = some '-' := by
  obtain ⟨line, first, kind⟩ := Option.map_eq_some_iff.mp d.marked.opens
  obtain ⟨rest, split⟩ := List.head?_eq_some_iff.mp first
  obtain ⟨line, rfl⟩ := List.head?_eq_some_iff.mp (head?_of_opening kind)
  refine Text.head?_of_foldReturns ?_ (by decide)
  rw [← Text.flatten_lines (Text.foldReturns d.text), ← textLines, split, List.flatten_cons]
  rfl

theorem isComplete_of_endsLine {d : StoredDocument} (ends : d.EndsLine) :
    ∀ line ∈ textLines d.text, isComplete line = true := by
  intro line member
  simp [isComplete, Text.getLast?_of_mem_lines (.inr ends) line member]

variable {documents : List StoredDocument} {text : List Char}

theorem decodes_bytesOf (documents : List StoredDocument) : Decodes (bytesOf documents) (textOf documents) [] := by
  induction documents with
  | nil => exact .done []
  | cons d rest ih => exact ((Text.decode_eq_ok_iff.mp d.decoded).append (bytesOf rest)).trans ih

theorem head?_textOf_append (documents : List StoredDocument) (other : text.head? ≠ some '\n') :
    (textOf documents ++ text).head? ≠ some '\n' := by
  cases documents with
  | nil => exact other
  | cons d rest =>
    obtain ⟨behind, split⟩ := List.head?_eq_some_iff.mp d.head?_text
    simp [textOf, split]

/-- The lines of documents, and the lines behind them. -/
theorem textLines_textOf_append (ends : ∀ d ∈ documents, d.EndsLine) (other : text.head? ≠ some '\n') :
    textLines (textOf documents ++ text) = linesOf documents ++ textLines text := by
  induction documents with
  | nil => rfl
  | cons d rest ih =>
    obtain ⟨here, later⟩ := List.forall_mem_cons.mp ends
    have split : textOf (d :: rest) ++ text = d.text ++ (textOf rest ++ text) := by simp [textOf]
    rw [split, textLines_append here (head?_textOf_append rest other), ih later]
    simp [linesOf]

theorem textLines_textOf (ends : ∀ d ∈ documents.dropLast, d.EndsLine) :
    textLines (textOf documents) = linesOf documents := by
  rcases List.eq_nil_or_concat' documents with rfl | ⟨others, last, rfl⟩
  · rfl
  · rw [List.dropLast_concat] at ends
    have other : last.text.head? ≠ some '\n' := by simp [last.head?_text]
    have lines := textLines_textOf_append ends other
    simpa [textOf, linesOf] using lines

theorem completeLines_textOf_append (ends : ∀ d ∈ documents, d.EndsLine) (first : text.head? = some '-') :
    completeLines (textOf documents ++ text) = linesOf documents ++ completeLines text := by
  have ne : text ≠ [] := by
    rintro rfl
    cases first
  have other : (withoutLastReturn text).head? ≠ some '\n' := head?_withoutLastReturn (by simp [first])
  have complete : (linesOf documents).filter isComplete = linesOf documents := by
    refine List.filter_eq_self.mpr fun line member => ?_
    obtain ⟨lines, inside, there⟩ := List.mem_flatten.mp member
    obtain ⟨d, stored, rfl⟩ := List.mem_map.mp inside
    exact isComplete_of_endsLine (ends d stored) line there
  rw [completeLines, withoutLastReturn_append _ ne, ← textLines, textLines_textOf_append ends other, List.filter_append,
    complete]
  rfl

theorem length_parts_linesOf (p : Pending) (documents : List StoredDocument) :
    (p.parts (linesOf documents)).length = p.part?.toList.length + documents.length := by
  have marked : ∀ lines ∈ documents.map fun d => textLines d.text, IsMarked lines := by
    simpa using fun d _ => d.marked
  rw [linesOf, p.length_parts_flatten marked, List.length_map]

end StoredDocument

end AccessPolicy.Source
