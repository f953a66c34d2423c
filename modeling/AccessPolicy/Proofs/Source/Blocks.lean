import AccessPolicy.Proofs.Text.Lines
import AccessPolicy.Proofs.Text.Utf8
import AccessPolicy.Source.Encoded

namespace AccessPolicy.Source

open Text (Line Utf8Fault Decodes IsShort IsBroken IsStuck)

/-- The lines of a text, whatever they end with. -/
def textLines (text : List Char) : List Line := Text.lines (Text.foldReturns text)

/-- The lines of a text that are complete, whatever follows. -/
def completeLines (text : List Char) : List Line :=
  (Text.lines (Text.foldReturns (withoutLastReturn text))).filter isComplete

/-- What is read of a file that cannot be read: the text of so many blocks, with nothing broken in them. The next block
cannot be read, or there is none and the last sequence stops short. -/
structure ReadsBlocks (bytes : List UInt8) (count : Nat) (text : List Char) : Prop where
  reads : ∃ left, Text.decodePart (bytes.take (count * blockSize)) = .ok (text, left)
  stops : (∃ fault, Text.decodePart (bytes.take ((count + 1) * blockSize)) = .error fault) ∨
    bytes.length ≤ count * blockSize

section Lines

variable (text more : List Char)

theorem withoutLastReturn_cases :
    withoutLastReturn text = text ∧ text.getLast? ≠ some '\r' ∨ text = withoutLastReturn text ++ ['\r'] := by
  by_cases last : text.getLast? = some '\r'
  · obtain ⟨before, rfl⟩ := List.getLast?_eq_some_iff.mp last
    exact .inr (by simp [withoutLastReturn])
  · exact .inl ⟨by simp [withoutLastReturn, last], last⟩

theorem filter_isComplete_isPrefix : (Text.lines text).filter isComplete <+: Text.lines (text ++ more) := by
  induction text using Text.lines_induction with
  | nil => exact List.nil_prefix
  | last line inLine ne =>
    have incomplete : isComplete line = false := by
      have last : line.getLast? ≠ some '\n' := fun feed => inLine (List.mem_of_getLast? feed)
      simpa [isComplete] using last
    rw [Text.lines_last inLine ne, List.filter_singleton, incomplete]
    exact List.nil_prefix
  | feed line rest inLine ih =>
    have complete : isComplete (line ++ ['\n']) = true := by simp [isComplete]
    rw [List.append_assoc, List.cons_append, Text.lines_feed _ inLine, Text.lines_feed _ inLine,
      List.filter_cons_of_pos complete]
    exact (List.prefix_cons_inj _).mpr ih

/-- The complete lines are the first lines, whatever follows. -/
theorem completeLines_isPrefix : completeLines text <+: textLines (text ++ more) := by
  have folded : ∃ later, Text.foldReturns (text ++ more) = Text.foldReturns (withoutLastReturn text) ++ later := by
    rcases withoutLastReturn_cases text with ⟨same, last⟩ | split
    · exact ⟨_, by rw [same, Text.foldReturns_append (.inl last)]⟩
    · refine ⟨Text.foldReturns ('\r' :: more), ?_⟩
      rw [← Text.foldReturns_append (.inr (by simp)), ← List.singleton_append, ← List.append_assoc, ← split]
  obtain ⟨later, folded⟩ := folded
  rw [textLines, folded]
  exact filter_isComplete_isPrefix _ _

variable {text more}

theorem textLines_append (ends : (Text.foldReturns text).getLast? = some '\n') (other : more.head? ≠ some '\n') :
    textLines (text ++ more) = textLines text ++ textLines more := by
  rw [textLines, Text.foldReturns_append (.inr other), Text.lines_append _ (.inr ends)]
  rfl

theorem head?_withoutLastReturn (other : text.head? ≠ some '\n') : (withoutLastReturn text).head? ≠ some '\n' := by
  rcases withoutLastReturn_cases text with ⟨same, _⟩ | split
  · rwa [same]
  · intro first
    rw [split, List.head?_append, first] at other
    exact other rfl

theorem withoutLastReturn_append (before : List Char) (ne : text ≠ []) :
    withoutLastReturn (before ++ text) = before ++ withoutLastReturn text := by
  unfold withoutLastReturn
  rw [List.getLast?_append_of_ne_nil _ ne, List.dropLast_append_of_ne_nil ne]
  split <;> rfl

end Lines

section Blocks

variable {bytes : List UInt8} {size : Nat}

theorem length_le_blocks (positive : 0 < size) : bytes.length ≤ (blocks size bytes).length * size := by
  cases size with
  | zero => exact absurd positive (Nat.lt_irrefl 0)
  | succ n =>
    have rounded := Nat.lt_div_mul_add positive (a := bytes.length + n)
    simp only [blocks, List.length_map, List.length_range]
    omega

/-- The first blocks hold the first bytes. -/
theorem flatten_take_blocks (positive : 0 < size) (count : Nat) :
    ((blocks size bytes).take count).flatten = bytes.take (count * size) := by
  induction count with
  | zero => simp
  | succ count ih =>
    by_cases inside : count < (blocks size bytes).length
    · have block : (blocks size bytes)[count] = (bytes.drop (count * size)).take size := by
        cases size with
        | zero => exact absurd positive (Nat.lt_irrefl 0)
        | succ n => simp [blocks]
      rw [List.take_succ_eq_append_getElem inside, List.flatten_append, ih, List.flatten_singleton, block, Nat.succ_mul,
        List.take_add]
    · have reached : bytes.length ≤ count * size :=
        Nat.le_trans (length_le_blocks positive) (Nat.mul_le_mul_right _ (by omega))
      rw [List.take_of_length_le (by omega), List.take_of_length_le (by rw [Nat.succ_mul]; omega)]
      rwa [List.take_of_length_le (by omega), List.take_of_length_le reached] at ih

theorem flatten_blocks (positive : 0 < size) : (blocks size bytes).flatten = bytes := by
  have all : ((blocks size bytes).take (blocks size bytes).length).flatten = _ := flatten_take_blocks positive _
  rwa [List.take_length, List.take_of_length_le (length_le_blocks positive)] at all

/-- Blocks are read to the end, or up to one that is broken, or up to the end where the last sequence stops short. -/
theorem readBlocks_cases (read : List Char) {waiting : List UInt8} (waits : waiting = [] ∨ IsShort waiting)
    (blocks : List (List UInt8)) :
    (∃ new, readBlocks read waiting blocks = (read ++ new, none) ∧ Decodes (waiting ++ blocks.flatten) new []) ∨
    ∃ count new left fault, readBlocks read waiting blocks = (read ++ new, some fault) ∧
      Decodes (waiting ++ (blocks.take count).flatten) new left ∧ (left = [] ∨ IsShort left) ∧
      ((∃ more behind, Decodes (waiting ++ (blocks.take (count + 1)).flatten) more behind ∧ IsBroken behind) ∨
        blocks.length ≤ count ∧ IsShort left) := by
  induction blocks generalizing read waiting with
  | nil =>
    rw [readBlocks]
    cases result : Text.decode waiting with
    | ok chars => exact .inl ⟨chars, rfl, by simpa using Text.decode_eq_ok_iff.mp result⟩
    | error fault =>
      have short : IsShort waiting := by
        refine waits.resolve_left ?_
        rintro rfl
        simp [Text.decode_eq_ok_iff.mpr (.done [])] at result
      exact .inr ⟨0, [], waiting, fault, by simp, by simpa using .done waiting, waits, .inr ⟨Nat.le_refl 0, short⟩⟩
  | cons block rest ih =>
    rw [readBlocks]
    cases result : Text.decodePart (waiting ++ block) with
    | ok r =>
      obtain ⟨chars, waiting'⟩ := r
      obtain ⟨decodes, waits'⟩ := Text.decodePart_eq_ok_iff.mp result
      have goesOn {bytes left : List UInt8} {more : List Char} (further : Decodes (waiting' ++ bytes) more left) :
          Decodes (waiting ++ (block ++ bytes)) (chars ++ more) left := by
        rw [← List.append_assoc]
        exact (decodes.append bytes).trans further
      rcases ih (read ++ chars) waits' with ⟨new, run, further⟩ | ⟨count, new, left, fault, run, further, stops, why⟩
      · exact .inl ⟨chars ++ new, by simp [run], goesOn further⟩
      · refine .inr ⟨count + 1, chars ++ new, left, fault, by simp [run], goesOn further, stops, ?_⟩
        rcases why with ⟨more, behind, further', broken⟩ | ⟨spent, short⟩
        · exact .inl ⟨chars ++ more, behind, goesOn further', broken⟩
        · exact .inr ⟨Nat.succ_le_succ spent, short⟩
    | error fault =>
      obtain ⟨more, behind, decodes, broken⟩ := (Text.meets_decodePart _).of_error result
      exact .inr ⟨0, [], waiting, fault, by simp, by simpa using .done waiting, waits,
        .inl ⟨more, behind, by simpa using decodes, broken⟩⟩

theorem ofBytes_cases (bytes : List UInt8) :
    (∃ text, Decodes bytes text [] ∧ Feed.ofBytes bytes = ⟨textLines text, none⟩) ∨
    ∃ count text fault more left, ReadsBlocks bytes count text ∧ Decodes bytes more left ∧ IsStuck left ∧ text <+: more ∧
      Feed.ofBytes bytes = ⟨completeLines text, some fault⟩ := by
  have positive : 0 < blockSize := by decide
  rcases readBlocks_cases [] (.inl rfl) (blocks blockSize bytes) with
    ⟨text, run, decodes⟩ | ⟨count, text, left, fault, run, decodes, stops, why⟩
  · rw [List.nil_append, flatten_blocks positive] at decodes
    exact .inl ⟨text, decodes, by simp [Feed.ofBytes, run, textLines]⟩
  · rw [List.nil_append, flatten_take_blocks positive] at decodes
    have feed : Feed.ofBytes bytes = ⟨completeLines text, some fault⟩ := by simp [Feed.ofBytes, run, completeLines]
    have whole := decodes.append (bytes.drop (count * blockSize))
    rw [List.take_append_drop] at whole
    rcases why with ⟨more, behind, further, broken⟩ | ⟨spent, short⟩
    · rw [List.nil_append, flatten_take_blocks positive] at further
      have stuck := further.append (bytes.drop ((count + 1) * blockSize))
      rw [List.take_append_drop] at stuck
      refine .inr ⟨count, text, fault, more, _, ?_, stuck, .inr (broken.append _), ?_, feed⟩
      · exact ⟨⟨left, Text.decodePart_eq_ok_iff.mpr ⟨decodes, stops⟩⟩, .inl (Text.exists_fault_of_isBroken further broken)⟩
      · exact whole.isPrefix_of_stuck stuck (.inr (.inr (broken.append _)))
    · have reached : bytes.length ≤ count * blockSize :=
        Nat.le_trans (length_le_blocks positive) (Nat.mul_le_mul_right _ spent)
      have reads := Text.decodePart_eq_ok_iff.mpr ⟨decodes, stops⟩
      rw [List.take_of_length_le reached] at decodes
      exact .inr ⟨count, text, fault, text, left, ⟨⟨left, reads⟩, .inr reached⟩, decodes, .inl short, List.prefix_rfl,
        feed⟩

variable {text : List Char} {left : List UInt8}

/-- The lines of a file that is UTF-8 are those of its text, wherever its blocks end. -/
theorem ofBytes_of_decodes (decodes : Decodes bytes text []) : Feed.ofBytes bytes = ⟨textLines text, none⟩ := by
  rcases ofBytes_cases bytes with ⟨text', decodes', feed⟩ | ⟨_, _, _, more, left, _, decodes', stuck, _⟩
  · rw [feed, (decodes.unique decodes' (.inl rfl) (.inl rfl)).1]
  · exact absurd (decodes.unique decodes' (.inl rfl) (.inr stuck)).2.symm stuck.ne_nil

/-- Of a file that is not UTF-8 the blocks before the broken one are read, which end before the bytes that are broken. -/
theorem ofBytes_of_stuck (decodes : Decodes bytes text left) (stuck : IsStuck left) :
    ∃ count read fault, ReadsBlocks bytes count read ∧ read <+: text ∧
      Feed.ofBytes bytes = ⟨completeLines read, some fault⟩ := by
  rcases ofBytes_cases bytes with
    ⟨text', decodes', _⟩ | ⟨count, read, fault, more, left', reads, decodes', stuck', first, feed⟩
  · exact absurd (decodes.unique decodes' (.inr stuck) (.inl rfl)).2 stuck.ne_nil
  · obtain ⟨rfl, _⟩ := decodes.unique decodes' (.inr stuck) (.inr stuck')
    exact ⟨count, read, fault, reads, first, feed⟩

/-- In a file of one block with a broken sequence nothing is read. -/
theorem ReadsBlocks.text_eq_nil {count : Nat} {fault : Utf8Fault} (reads : ReadsBlocks bytes count text)
    (short : bytes.length ≤ blockSize) (failed : Text.decodePart bytes = .error fault) : text = [] := by
  obtain ⟨left, read⟩ := reads.reads
  cases count with
  | zero =>
    rw [Nat.zero_mul, List.take_zero] at read
    exact (Prod.ext_iff.mp (Except.ok.inj read)).1.symm
  | succ count =>
    rw [List.take_of_length_le (by rw [Nat.succ_mul]; omega), failed] at read
    cases read

end Blocks

end AccessPolicy.Source
