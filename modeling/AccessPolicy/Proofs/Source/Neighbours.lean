import AccessPolicy.Proofs.Source.Isolation
import AccessPolicy.Proofs.Source.Layout

namespace AccessPolicy.Source

open Text (Line lines)

/-- A document and what follows it, behind what has been seen. The document is in one part with a lead before it. -/
theorem Pending.parts_document_append (p : Pending) {document after : List Line} (single : IsDocument document)
    (stops : after = [] ∨ after.head?.map lineKind = some .opening) :
    p.parts (document ++ after) = p.part?.toList ++
      (if p.hasContent then ⟨p.position, document⟩ else ⟨p.start, p.seen.reverse ++ document⟩) ::
        (startingAt (p.position + document.length)).parts after := by
  have behind (start : Nat) (seen : List Line) :
      parts ⟨start, document.reverse ++ seen, true⟩ after =
        ⟨start, seen.reverse ++ document⟩ :: (startingAt (start + seen.length + document.length)).parts after := by
    rw [parts_of_content rfl stops]
    simp [part?, position, Nat.add_comm document.length, Nat.add_assoc]
  rw [parts_append, run_document single]
  by_cases content : p.hasContent = true
  · simpa [content] using behind p.position []
  · simpa [content, part?, position] using behind p.start p.seen

/-- The parts of lines with a document among them. The parts before it, its place and the lead before it do not depend on
the document, and the parts behind it depend on nothing but the number of its lines. -/
theorem exists_parts_around (before : List Line) {after : List Line}
    (stops : after = [] ∨ after.head?.map lineKind = some .opening) :
    ∃ early start lead, IsLead lead ∧ ∀ document, IsDocument document →
      parts (before ++ (document ++ after)) =
        early ++ ⟨start, lead ++ document⟩ :: (parts after).map (Part.shift (before.length + document.length)) := by
  obtain ⟨early, pending, run⟩ : ∃ early pending, (Pending.startingAt 0).run before = (early, pending) := ⟨_, _, rfl⟩
  have sound : pending.IsSound := by
    simpa [run] using (Pending.startingAt_isSound 0).run before
  have position : pending.position = before.length := by
    have counted := Pending.position_run (.startingAt 0) before
    rw [run] at counted
    exact counted.trans (Nat.zero_add _)
  have around {document : List Line} (single : IsDocument document) :
      parts (before ++ (document ++ after)) = (early ++ pending.part?.toList) ++
        (if pending.hasContent then ⟨before.length, document⟩ else ⟨pending.start, pending.seen.reverse ++ document⟩) ::
          (parts after).map (Part.shift (before.length + document.length)) := by
    rw [parts, Pending.parts_append, run, Pending.parts_document_append _ single stops, position,
      Pending.parts_startingAt, List.append_assoc]
  cases sound with
  | @lead start seen lead => exact ⟨_, start, seen.reverse, lead, fun document single => around single⟩
  | @inside start seen sofar => exact ⟨_, before.length, [], isLead_nil, fun document single => around single⟩

/-- Two documents that stand in one place of a text. Each starts a line, and its first line is its only mark. They have as
many lines that end, and what follows them starts a line that opens a document. -/
structure StandAlike (before document document' after : List Char) : Prop where
  begins : before = [] ∨ before.getLast? = some '\n'
  single : IsDocument (lines document)
  single' : IsDocument (lines document')
  lineCount : document.count '\n' = document'.count '\n'
  follows : after = [] ∨ (document.getLast? = some '\n' ∧ document'.getLast? = some '\n' ∧
    (lines after).head?.map lineKind = some .opening)

theorem StandAlike.exists_parts {before document document' after : List Char}
    (alike : StandAlike before document document' after) :
    ∃ early start lead late, IsLead lead ∧
      parts (lines (before ++ (document ++ after))) = early ++ ⟨start, lead ++ lines document⟩ :: late ∧
      parts (lines (before ++ (document' ++ after))) = early ++ ⟨start, lead ++ lines document'⟩ :: late := by
  have stops : lines after = [] ∨ (lines after).head?.map lineKind = some .opening := by
    rcases alike.follows with rfl | ⟨_, _, opens⟩
    · exact .inl rfl
    · exact .inr opens
  obtain ⟨early, start, lead, isLead, around⟩ := exists_parts_around (lines before) stops
  have late : (parts (lines after)).map (Part.shift ((lines before).length + (lines document).length)) =
      (parts (lines after)).map (Part.shift ((lines before).length + (lines document').length)) := by
    rcases alike.follows with rfl | ⟨ends, ends', _⟩
    · rfl
    · rw [Text.length_lines_of_ends ends, Text.length_lines_of_ends ends', alike.lineCount]
  have split {document : List Char} (ends : after = [] ∨ document.getLast? = some '\n') :
      lines (before ++ (document ++ after)) = lines before ++ (lines document ++ lines after) := by
    rw [Text.lines_append _ alike.begins]
    rcases ends with rfl | ends
    · simp [lines, Text.linesFrom]
    · rw [Text.lines_append _ (.inr ends)]
  refine ⟨early, start, lead, (parts (lines after)).map (Part.shift ((lines before).length + (lines document).length)),
    isLead, ?_, ?_⟩
  · rw [split (alike.follows.imp_right fun ends => ends.1), around _ alike.single]
  · rw [split (alike.follows.imp_right fun ends => ends.2.1), around _ alike.single', late]

/-- What the messages of others are does not depend on an outcome that stands under its own identity. -/
theorem messagesFor_notesFrom_exchange {source other : String} {before after : List Outcome} {o o' : Outcome}
    (apart : other ≠ itemIdentity source (before.length + 1)) :
    Diagnostics.messagesFor ⟨notesFrom source 1 (before ++ o :: after)⟩ other =
      Diagnostics.messagesFor ⟨notesFrom source 1 (before ++ o' :: after)⟩ other := by
  have without (o : Outcome) : Diagnostics.messagesFor ⟨notesFrom source 1 (before ++ o :: after)⟩ other =
      Diagnostics.messagesFor ⟨notesFrom source 1 before⟩ other ++
        Diagnostics.messagesFor ⟨notesFrom source (1 + before.length + 1) after⟩ other := by
    have own : Diagnostics.messagesFor ⟨o.reception.messages.map (Note.mk (itemIdentity source (1 + before.length)))⟩
        other = [] := by
      refine Diagnostics.messagesFor_eq_nil fun note member same => apart ?_
      obtain ⟨message, _, rfl⟩ := List.mem_map.mp member
      rw [← same, Nat.add_comm before.length]
    rw [notesFrom_append, notesFrom, Diagnostics.messagesFor_append, Diagnostics.messagesFor_append, own, List.nil_append]
  rw [without o, without o']

/-- A text that is taken in to its end leaves behind what its parts do. -/
theorem intake_text_of_ended {text identity : String} {prior : Diagnostics} {i : Intake}
    (loaded : (ofText text identity).outcomes.map (intake identity prior) = .ok i) (ended : i.trouble = none) :
    i.slots = (textParts text).map (fun p => p.outcome.reception.slot) ∧
      i.diagnostics = prior.extend (notesFrom identity 1 ((textParts text).map Part.outcome)) := by
  obtain ⟨taken, rest, trouble, split, _, run, ending⟩ := intake_parts identity prior (textParts text)
  obtain rfl : _ = i := Except.ok.inj ((congrArg Except.ok run).symm.trans loaded)
  rcases ending with ⟨rfl, _⟩ | ⟨_, _, _, _, _, _, found⟩
  · simp [split]
  · exact absurd (found.symm.trans ended) (by simp)

theorem getElem?_exchange {α : Type} {before after : List α} {a b : α} {k : Nat} (apart : k ≠ before.length) :
    (before ++ a :: after)[k]? = (before ++ b :: after)[k]? := by
  rcases Nat.lt_or_gt_of_ne apart with early | late
  · rw [List.getElem?_append_left early, List.getElem?_append_left early]
  · obtain ⟨j, rfl⟩ := Nat.exists_eq_add_of_lt late
    rw [List.getElem?_append_right (by omega), List.getElem?_append_right (by omega),
      show before.length + j + 1 - before.length = j + 1 by omega, List.getElem?_cons_succ, List.getElem?_cons_succ]

/-- Two texts differ in one document, with another at its place that has as many lines, and both are taken in to their
ends. Then the documents are in the same part, with the same lead and nothing else before them. All other slots are the
same, and so are the messages under all other identities. -/
theorem others_unaffected {before document document' after : String} (identity : String) (prior : Diagnostics)
    (alike : StandAlike before.toList document.toList document'.toList after.toList) {first second : Intake}
    (loaded : (ofText (before ++ document ++ after) identity).outcomes.map (intake identity prior) = .ok first)
    (loaded' : (ofText (before ++ document' ++ after) identity).outcomes.map (intake identity prior) = .ok second)
    (ended : first.trouble = none) (ended' : second.trouble = none) :
    ∃ k start lead, IsLead lead ∧
      (textParts (before ++ document ++ after))[k]? = some ⟨start, lead ++ lines document.toList⟩ ∧
      (textParts (before ++ document' ++ after))[k]? = some ⟨start, lead ++ lines document'.toList⟩ ∧
      first.slots.length = second.slots.length ∧ (∀ j ≠ k, first.slots[j]? = second.slots[j]?) ∧
      ∀ other ≠ itemIdentity identity (k + 1),
        first.diagnostics.messagesFor other = second.diagnostics.messagesFor other := by
  obtain ⟨early, start, lead, late, isLead, split, split'⟩ := alike.exists_parts
  have parts : textParts (before ++ document ++ after) = early ++ ⟨start, lead ++ lines document.toList⟩ :: late := by
    rw [textParts, String.toList_append, String.toList_append, List.append_assoc, split]
  have parts' : textParts (before ++ document' ++ after) = early ++ ⟨start, lead ++ lines document'.toList⟩ :: late := by
    rw [textParts, String.toList_append, String.toList_append, List.append_assoc, split']
  obtain ⟨slots, notes⟩ := intake_text_of_ended loaded ended
  obtain ⟨slots', notes'⟩ := intake_text_of_ended loaded' ended'
  rw [parts, List.map_append, List.map_cons] at slots notes
  rw [parts', List.map_append, List.map_cons] at slots' notes'
  refine ⟨early.length, start, lead, isLead, by simp [parts], by simp [parts'], by simp [slots, slots'], ?_, ?_⟩
  · intro j apart
    rw [slots, slots']
    exact getElem?_exchange (by simpa using apart)
  · intro other apart
    rw [notes, notes', Diagnostics.messagesFor_extend, Diagnostics.messagesFor_extend]
    exact congrArg _ (messagesFor_notesFrom_exchange (by simpa using apart))

/-- An unclosed list and an unclosed text at the same place. -/
theorem unclosed_others_unaffected :
    ∃ first second,
      (ofText ("# a\n---\na: 1\n" ++ "--- [\n" ++ "---\n~\n") "src").outcomes.map (intake "src" .empty) = .ok first ∧
      (ofText ("# a\n---\na: 1\n" ++ "--- \"\n" ++ "---\n~\n") "src").outcomes.map (intake "src" .empty) = .ok second ∧
      first.trouble = none ∧ second.trouble = none ∧
      ∃ k start lead, IsLead lead ∧
        (textParts ("# a\n---\na: 1\n" ++ "--- [\n" ++ "---\n~\n"))[k]? =
          some ⟨start, lead ++ lines "--- [\n".toList⟩ ∧
        (textParts ("# a\n---\na: 1\n" ++ "--- \"\n" ++ "---\n~\n"))[k]? =
          some ⟨start, lead ++ lines "--- \"\n".toList⟩ ∧
        first.slots.length = second.slots.length ∧ (∀ j ≠ k, first.slots[j]? = second.slots[j]?) ∧
        ∀ other ≠ itemIdentity "src" (k + 1),
          first.diagnostics.messagesFor other = second.diagnostics.messagesFor other := by
  have alike : StandAlike "# a\n---\na: 1\n".toList "--- [\n".toList "--- \"\n".toList "---\n~\n".toList :=
    ⟨by decide, by decide +kernel, by decide +kernel, by decide, by decide +kernel⟩
  have ended : (intake "src" .empty ((textParts ("# a\n---\na: 1\n" ++ "--- [\n" ++ "---\n~\n")).map
      Part.outcome)).trouble = none := Option.isNone_iff_eq_none.mp (by decide +kernel)
  have ended' : (intake "src" .empty ((textParts ("# a\n---\na: 1\n" ++ "--- \"\n" ++ "---\n~\n")).map
      Part.outcome)).trouble = none := Option.isNone_iff_eq_none.mp (by decide +kernel)
  exact ⟨_, _, rfl, rfl, ended, ended', others_unaffected "src" .empty alike rfl rfl ended ended'⟩

end AccessPolicy.Source
