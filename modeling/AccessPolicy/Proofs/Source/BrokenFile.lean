import AccessPolicy.Proofs.Source.Neighbours
import AccessPolicy.Proofs.Source.Stored

namespace AccessPolicy.Source

open Text (Line Utf8Fault Decodes IsStuck)

/-- So many of the first outcomes, and then a fault. -/
def cutOff (count : Nat) (fault : Utf8Fault) (outcomes : List Outcome) : List Outcome :=
  outcomes.take count ++ [.failed (.encoding fault)]

/-- How many documents end in a text, whatever follows it. -/
def documentsEnded (text : List Char) : Nat := ((Pending.startingAt 0).run (completeLines text)).1.length

/-- A file of documents, and the same file with other bytes in one document. From some place in that document on, which is
before the line that closes it, the bytes are not UTF-8. -/
structure BrokenFile where
  early : List StoredDocument
  /-- The document as it is without the broken bytes. -/
  document : StoredDocument
  late : List StoredDocument
  ends : ∀ d ∈ (early ++ document :: late).dropLast, d.EndsLine
  /-- What the document starts with in both files. -/
  good : List UInt8
  rest : List UInt8
  /-- What stands in place of the rest. -/
  bad : List UInt8
  text : List Char
  split : document.bytes = good ++ rest
  reads : Text.decode good = .ok text
  unclosed : ∀ line ∈ textLines text, isComplete line = true → lineKind line ≠ .closing
  stuck : IsStuck (bad ++ StoredDocument.bytesOf late)

namespace BrokenFile

open StoredDocument

variable (f : BrokenFile)

/-- All documents, none of them broken. -/
def documents : List StoredDocument := f.early ++ f.document :: f.late

/-- The bytes of the file without the broken ones. -/
def clean : List UInt8 := bytesOf f.documents

/-- The bytes of the file. -/
def broken : List UInt8 := bytesOf f.early ++ (f.good ++ (f.bad ++ bytesOf f.late))

theorem early_ends : ∀ d ∈ f.early, d.EndsLine := by
  intro d member
  refine f.ends d ?_
  rw [List.dropLast_append_of_ne_nil (by simp)]
  exact List.mem_append_left _ member

theorem decodes_broken : Decodes f.broken (textOf f.early ++ f.text) (f.bad ++ bytesOf f.late) :=
  ((decodes_bytesOf f.early).append _).trans ((Text.decode_eq_ok_iff.mp f.reads).append _)

theorem textLines_documents : textLines (textOf f.documents) = linesOf f.documents := textLines_textOf f.ends

/-- What is good of the document is the start of its text. -/
theorem text_isPrefix : f.text <+: f.document.text := by
  have good : Decodes f.document.bytes f.text f.rest := by
    rw [f.split]
    exact (Text.decode_eq_ok_iff.mp f.reads).append f.rest
  exact good.isPrefix_of_stuck (Text.decode_eq_ok_iff.mp f.document.decoded) (.inl rfl)

/-- A document has begun behind the early ones and the first lines of the broken one, but it has not ended. -/
theorem length_run_lt {first : List Line} (ne : first ≠ []) (inside : first <+: textLines f.document.text)
    (unclosed : ∀ line ∈ first, lineKind line ≠ .closing) :
    ((Pending.startingAt 0).run (linesOf f.early ++ first)).1.length < f.early.length + 1 := by
  obtain ⟨later, split⟩ := inside
  obtain ⟨line, body, rfl⟩ := List.exists_cons_of_ne_nil ne
  have opens : lineKind line = .opening := by
    have head := f.document.marked.opens
    rw [← split] at head
    simpa using head
  have whole : (Pending.startingAt 0).parts ((linesOf f.early ++ line :: body) ++ later) =
      (Pending.startingAt 0).parts (linesOf (f.early ++ [f.document])) := by
    simp [linesOf, ← split]
  have content : ((Pending.startingAt 0).run (linesOf f.early ++ line :: body)).2.hasContent = true := by
    rw [Pending.run_append, Pending.run_cons]
    refine Pending.hasContent_run ?_ (List.forall_mem_cons.mp unclosed).2
    rw [Pending.step_opening opens]
    split <;> rfl
  have begun := Pending.length_parts_pos content later
  have count := length_parts_linesOf (Pending.startingAt 0) (f.early ++ [f.document])
  rw [← whole, Pending.parts_append, List.length_append, List.length_append, List.length_singleton] at count
  have nothing : (Pending.startingAt 0).part?.toList.length = 0 := rfl
  omega

/-- No more documents end in the first lines of the early ones than there are. -/
theorem length_run_early_le {lines : List Line} (inside : lines <+: linesOf f.early) :
    ((Pending.startingAt 0).run lines).1.length ≤ f.early.length := by
  have fewer := ((Pending.startingAt 0).run_isPrefix_parts inside).length_le
  rw [length_parts_linesOf] at fewer
  simpa [Pending.startingAt, Pending.part?] using fewer

theorem documentsEnded_le_of_early {read more : List Char} (all : read ++ more = textOf f.early) :
    documentsEnded read ≤ f.early.length := by
  refine f.length_run_early_le ?_
  rw [← textLines_textOf fun d member => f.early_ends d (List.dropLast_subset _ member), ← all]
  exact completeLines_isPrefix read more

/-- No more documents end in what can be read than precede the broken one: what is read ends in the early documents, or in
the broken one, which no line of it closes. -/
theorem documentsEnded_le {read : List Char} (first : read <+: textOf f.early ++ f.text) :
    documentsEnded read ≤ f.early.length := by
  rcases List.prefix_or_prefix_of_prefix first (List.prefix_append (textOf f.early) f.text) with ⟨more, all⟩ | ⟨more, rfl⟩
  · exact f.documentsEnded_le_of_early all
  · obtain ⟨unread, behind⟩ := (List.prefix_append_right_inj _).mp first
    obtain ⟨rest, whole⟩ := f.text_isPrefix
    cases more with
    | nil => exact f.documentsEnded_le_of_early (List.append_nil _ |>.trans (List.append_nil _))
    | cons c more =>
      have dash := f.document.head?_text
      rw [← whole, ← behind] at dash
      rw [documentsEnded, completeLines_textOf_append f.early_ends (by simpa using dash)]
      by_cases nothing : completeLines (c :: more) = []
      · exact f.length_run_early_le (by simp [nothing])
      · refine Nat.lt_succ_iff.mp (f.length_run_lt nothing ?_ fun line member => ?_)
        · rw [← whole, ← behind, List.append_assoc]
          exact completeLines_isPrefix _ _
        · refine f.unclosed line ?_ (List.mem_filter.mp member).2
          rw [← behind]
          exact (completeLines_isPrefix _ _).subset member

/-- What comes of the file without the broken bytes, and of the file: so many of the first outcomes, and the fault. -/
theorem exists_outcomes : ∃ count read fault, ReadsBlocks f.broken count read ∧
    (Feed.ofBytes f.broken).fault = some fault ∧ documentsEnded read ≤ f.early.length ∧
    ∃ parts : List Part, parts.length = f.documents.length ∧
      (Feed.ofBytes f.clean).outcomes = parts.map Part.outcome ∧
      (Feed.ofBytes f.broken).outcomes = cutOff (documentsEnded read) fault (parts.map Part.outcome) := by
  obtain ⟨count, read, fault, reads, first, feed⟩ := ofBytes_of_stuck f.decodes_broken f.stuck
  refine ⟨count, read, fault, reads, by rw [feed], f.documentsEnded_le first, parts (linesOf f.documents), ?_, ?_, ?_⟩
  · rw [parts, length_parts_linesOf]
    simp [Pending.startingAt, Pending.part?]
  · rw [clean, ofBytes_of_decodes (decodes_bytesOf f.documents), f.textLines_documents]
    rfl
  · have whole : completeLines read <+: linesOf f.documents := by
      obtain ⟨unread, behind⟩ := first
      obtain ⟨rest, text⟩ := f.text_isPrefix
      have all : textOf f.documents = read ++ (unread ++ (rest ++ textOf f.late)) := by
        have split : textOf f.documents = textOf f.early ++ (f.document.text ++ textOf f.late) := by
          simp [documents, textOf]
        rw [split, ← text, ← List.append_assoc read, behind]
        simp
      rw [← f.textLines_documents, all]
      exact completeLines_isPrefix _ _
    have taken := List.prefix_iff_eq_take.mp ((Pending.startingAt 0).run_isPrefix_parts whole)
    rw [feed, Feed.outcomes, cutOff, taken, List.map_take]
    rfl

end BrokenFile

/-- The promise for a broken file, where the document with the given index is the broken one: its slot is empty, the message
stands under its identity, and all else is as it is without the broken bytes. -/
structure LosesOnly (index : Nat) (message identity : String) (prior : Diagnostics) (clean broken : Intake) : Prop where
  lost : broken.slots[index]? = some none
  told : prior.newMessages broken.diagnostics (itemIdentity identity (index + 1)) = [message]
  slots : ∀ i ≠ index, broken.slots[i]? = clean.slots[i]?
  messages : ∀ other ≠ itemIdentity identity (index + 1),
    broken.diagnostics.messagesFor other = clean.diagnostics.messagesFor other

/-- What comes of a broken file: so many documents are taken in as they are without the broken bytes, then the message stands
under the next identity, and nothing follows. -/
structure BreaksOff (count : Nat) (message identity : String) (prior : Diagnostics) (clean broken : Intake) : Prop where
  ends : broken.trouble = none
  slots : broken.slots = clean.slots.take count ++ [none]
  told : prior.newMessages broken.diagnostics (itemIdentity identity (count + 1)) = [message]
  early : ∀ i < count, broken.diagnostics.messagesFor (itemIdentity identity (i + 1)) =
    clean.diagnostics.messagesFor (itemIdentity identity (i + 1))
  silent : ∀ other, prior.newMessages broken.diagnostics other ≠ [] → ∃ i ≤ count, other = itemIdentity identity (i + 1)

section Intakes

variable {source : String} {prior : Diagnostics} {outcomes : List Outcome}

theorem continues_of_ended {parts : List Part} (ended : (intake source prior (parts.map Part.outcome)).trouble = none) :
    ∀ o ∈ parts.map Part.outcome, o.reception.continues = true := by
  obtain ⟨taken, rest, trouble, split, confined, run, ending⟩ := intake_parts source prior parts
  rw [run] at ended
  rcases ending with ⟨rfl, _⟩ | ⟨_, _, t, _, _, _, found⟩
  · intro o member
    obtain ⟨p, inside, rfl⟩ := List.mem_map.mp member
    exact (Part.reception_of_not_escapes (confined p (by simpa [split] using inside))).1
  · exact absurd (found.symm.trans ended) (by simp)

variable {count : Nat} {fault : Utf8Fault}

/-- What is told of bytes that are not UTF-8. -/
def undecodableMessage (fault : Utf8Fault) : String := "Error parsing the policy document: " ++ fault.message

theorem cutOff_continues (continues : ∀ o ∈ outcomes, o.reception.continues = true) :
    ∀ o ∈ cutOff count fault outcomes, o.reception.continues = true := by
  intro o member
  rcases List.mem_append.mp member with early | last
  · exact continues o (List.take_subset _ _ early)
  · rw [List.mem_singleton.mp last]
    rfl

theorem length_cutOff (bound : count ≤ outcomes.length) : (cutOff count fault outcomes).length = count + 1 := by
  rw [cutOff, List.length_append, List.length_take, Nat.min_eq_left bound, List.length_singleton]

theorem getElem?_cutOff_of_lt {i : Nat} (early : i < count) (bound : count ≤ outcomes.length) :
    (cutOff count fault outcomes)[i]? = outcomes[i]? := by
  rw [cutOff, List.getElem?_append_left (by rw [List.length_take]; omega), List.getElem?_take_of_lt early]

theorem getElem?_cutOff (bound : count ≤ outcomes.length) :
    (cutOff count fault outcomes)[count]? = some (.failed (.encoding fault)) := by
  rw [cutOff, List.getElem?_append_right (by rw [List.length_take]; omega), List.length_take, Nat.min_eq_left bound,
    Nat.sub_self]
  rfl

theorem breaksOff (continues : ∀ o ∈ outcomes, o.reception.continues = true) (bound : count ≤ outcomes.length) :
    BreaksOff count (undecodableMessage fault) source prior (intake source prior outcomes)
      (intake source prior (cutOff count fault outcomes)) := by
  rw [intake_all (cutOff_continues continues), intake_all continues]
  refine ⟨rfl, ?_, ?_, fun i early => ?_, fun other fresh => ?_⟩
  · rw [cutOff, List.map_append, List.map_take]
    rfl
  · exact newMessages_notesFrom prior (getElem?_cutOff bound)
  · obtain ⟨o, here⟩ : ∃ o, outcomes[i]? = some o := ⟨_, List.getElem?_eq_getElem (by omega)⟩
    have there : (cutOff count fault outcomes)[i]? = some o := (getElem?_cutOff_of_lt early bound).trans here
    rw [Diagnostics.messagesFor_extend, Diagnostics.messagesFor_extend, Nat.add_comm i 1, messagesFor_notesFrom here,
      messagesFor_notesFrom there]
  · obtain ⟨i, inside, same⟩ := exists_slot_of_newMessages fresh
    rw [length_cutOff bound] at inside
    exact ⟨i, Nat.lt_succ_iff.mp inside, same⟩

/-- Where only the broken document is lost, all before it have ended, and there is none behind it. -/
theorem LosesOnly.last {index : Nat} (continues : ∀ o ∈ outcomes, o.reception.continues = true) (bound : count ≤ index)
    (inside : index < outcomes.length)
    (loses : LosesOnly index (undecodableMessage fault) source prior (intake source prior outcomes)
      (intake source prior (cutOff count fault outcomes))) : count = index ∧ index + 1 = outcomes.length := by
  have broken : BreaksOff count (undecodableMessage fault) source prior (intake source prior outcomes)
      (intake source prior (cutOff count fault outcomes)) := breaksOff continues (by omega)
  have reached : index ≤ count := by
    have fresh : prior.newMessages (intake source prior (cutOff count fault outcomes)).diagnostics
        (itemIdentity source (index + 1)) ≠ [] := by simp [loses.told]
    obtain ⟨i, within, same⟩ := broken.silent _ fresh
    have indices := (itemIdentity_inj same).2
    omega
  refine ⟨Nat.le_antisymm bound reached, ?_⟩
  -- a document behind the broken one has a slot, but nothing is taken in behind the message
  by_contra more
  have other := loses.slots (index + 1) (by omega)
  rw [intake_all (cutOff_continues continues), intake_all continues, List.getElem?_map, List.getElem?_map,
    List.getElem?_eq_none (by rw [length_cutOff (by omega)]; omega), List.getElem?_eq_getElem (by omega)] at other
  cases other

theorem losesOnly_of_last (continues : ∀ o ∈ outcomes, o.reception.continues = true) (last : count + 1 = outcomes.length) :
    LosesOnly count (undecodableMessage fault) source prior (intake source prior outcomes)
      (intake source prior (cutOff count fault outcomes)) := by
  have broken : BreaksOff count (undecodableMessage fault) source prior (intake source prior outcomes)
      (intake source prior (cutOff count fault outcomes)) := breaksOff continues (by omega)
  have split : outcomes = outcomes.take count ++ [outcomes[count]] := by
    rw [← List.take_succ_eq_append_getElem (by omega), List.take_of_length_le (by omega)]
  have cut : ∀ o ∈ cutOff count fault outcomes, o.reception.continues = true := cutOff_continues continues
  refine ⟨?_, broken.told, fun i other => ?_, fun other apart => ?_⟩
  · rw [intake_all cut, List.getElem?_map, getElem?_cutOff (by omega)]
    rfl
  · rw [intake_all cut, intake_all continues, List.getElem?_map, List.getElem?_map]
    rcases Nat.lt_or_gt_of_ne other with early | late
    · rw [getElem?_cutOff_of_lt early (by omega)]
    · rw [List.getElem?_eq_none (by rw [length_cutOff (by omega)]; omega), List.getElem?_eq_none (by omega)]
  · rw [intake_all cut, intake_all continues, Diagnostics.messagesFor_extend, Diagnostics.messagesFor_extend]
    congr 1
    rw [cutOff]
    conv_rhs => rw [split]
    refine messagesFor_notesFrom_exchange ?_
    rwa [List.length_take, Nat.min_eq_left (by omega)]

end Intakes

/-- A file with broken bytes in one document, under a path that can be opened. The whole blocks before the broken bytes are
read, and the documents that end in them are taken in as they are without these bytes. Then the message follows, under the
next identity, and nothing else. So only the broken document is lost exactly if it is the last one of the file and all others
end in these blocks. -/
theorem BrokenFile.losesOnly_iff (f : BrokenFile) {path : String} (named : path.toList.contains '\x00' = false) :
    ∃ count read fault outcomes, ReadsBlocks f.broken count read ∧ (Feed.ofBytes f.broken).fault = some fault ∧
      documentsEnded read ≤ f.early.length ∧ outcomes.length = f.documents.length ∧
      (ofPath path (.file f.clean)).outcomes = .ok outcomes ∧
      (ofPath path (.file f.broken)).outcomes = .ok (cutOff (documentsEnded read) fault outcomes) ∧
      ∀ prior, (intake (fileName path) prior outcomes).trouble = none →
        BreaksOff (documentsEnded read) (undecodableMessage fault) (fileName path) prior
          (intake (fileName path) prior outcomes)
          (intake (fileName path) prior (cutOff (documentsEnded read) fault outcomes)) ∧
        (LosesOnly f.early.length (undecodableMessage fault) (fileName path) prior
            (intake (fileName path) prior outcomes)
            (intake (fileName path) prior (cutOff (documentsEnded read) fault outcomes)) ↔
          documentsEnded read = f.early.length ∧ f.late = []) := by
  obtain ⟨count, read, fault, reads, told, bound, parts, size, clean, broken⟩ := f.exists_outcomes
  have opened (bytes : List UInt8) : (ofPath path (.file bytes)).outcomes = .ok (Feed.ofBytes bytes).outcomes := by
    simp only [outcomes, feed, ofPath, openPath, named]
    rfl
  have length : (parts.map Part.outcome).length = f.early.length + 1 + f.late.length := by
    rw [List.length_map, size, documents, List.length_append, List.length_cons]
    omega
  refine ⟨count, read, fault, parts.map Part.outcome, reads, told, bound, by rw [List.length_map, size],
    by rw [opened, clean], by rw [opened, broken], fun prior ended => ?_⟩
  have continues := continues_of_ended ended
  refine ⟨breaksOff continues (by omega), fun loses => ?_, ?_⟩
  · obtain ⟨all, last⟩ := loses.last continues bound (by omega)
    exact ⟨all, List.length_eq_zero_iff.mp (by omega)⟩
  · rintro ⟨all, none⟩
    rw [none, List.length_nil] at length
    rw [← all]
    exact losesOnly_of_last continues (by omega)

/-- A policy. -/
def policyDocument : StoredDocument where
  bytes := Text.encode "--- {description: d, for: {job: [{allow: read}]}, by: {username: u}}\n".toList
  text := "--- {description: d, for: {job: [{allow: read}]}, by: {username: u}}\n".toList
  decoded := by decide +kernel
  marked := ⟨by decide +kernel, by decide +kernel⟩

/-- A document that is a number. -/
def numberDocument : StoredDocument where
  bytes := Text.encode "--- 2\n".toList
  text := "--- 2\n".toList
  decoded := by decide +kernel
  marked := ⟨by decide +kernel, by decide +kernel⟩

/-- A policy, and a number in whose place stands a byte that starts no character. -/
def policyAndBrokenByte : BrokenFile where
  early := [policyDocument]
  document := numberDocument
  late := []
  ends := by
    intro d member
    obtain rfl : d = policyDocument := by simpa using member
    unfold StoredDocument.EndsLine
    decide +kernel
  good := Text.encode "--- ".toList
  rest := Text.encode "2\n".toList
  bad := [0xFF, 0x0A]
  text := "--- ".toList
  split := by decide +kernel
  reads := by decide +kernel
  unclosed := by decide +kernel
  stuck := .inr (@Text.IsBroken.intro _ _ 1 .start (by decide +kernel))

theorem policy_taken : (intake "src" .empty (Feed.ofBytes policyAndBrokenByte.clean).outcomes).trouble = none ∧
    (intake "src" .empty (Feed.ofBytes policyAndBrokenByte.clean).outcomes).slots.map Option.isSome = [true, false] := by
  rw [← Option.isNone_iff_eq_none]
  decide +kernel

/-- The policy is lost with the byte behind it. -/
theorem policy_breaks_off : ∃ fault,
    BreaksOff 0 (undecodableMessage fault) "src" .empty
        (intake "src" .empty (Feed.ofBytes policyAndBrokenByte.clean).outcomes)
        (intake "src" .empty (Feed.ofBytes policyAndBrokenByte.broken).outcomes) ∧
      ¬LosesOnly 1 (undecodableMessage fault) "src" .empty
        (intake "src" .empty (Feed.ofBytes policyAndBrokenByte.clean).outcomes)
        (intake "src" .empty (Feed.ofBytes policyAndBrokenByte.broken).outcomes) := by
  obtain ⟨count, read, fault, outcomes, reads, _, _, _, clean, broken, all⟩ :=
    @BrokenFile.losesOnly_iff policyAndBrokenByte "src" (by decide)
  obtain ⟨_, failed⟩ := Text.exists_fault_of_isBroken policyAndBrokenByte.decodes_broken
    (@Text.IsBroken.intro 0xFF [0x0A] 1 .start (by decide +kernel))
  obtain rfl : read = [] := reads.text_eq_nil (by decide +kernel) failed
  have none_ended : documentsEnded [] = 0 := rfl
  obtain rfl : (Feed.ofBytes policyAndBrokenByte.clean).outcomes = outcomes := Except.ok.inj clean
  have cut : (Feed.ofBytes policyAndBrokenByte.broken).outcomes = _ := Except.ok.inj broken
  obtain ⟨breaks, only⟩ := all .empty policy_taken.1
  rw [← cut, none_ended] at breaks only
  exact ⟨fault, breaks, fun loses => absurd (only.mp loses).1 (by decide)⟩

/-- Without the byte there are a policy and an empty slot, but with it there is the empty slot alone. -/
theorem policy_not_spared : ∃ clean broken,
    (ofPath "src" (.file policyAndBrokenByte.clean)).outcomes.map (intake "src" .empty) = .ok clean ∧
      (ofPath "src" (.file policyAndBrokenByte.broken)).outcomes.map (intake "src" .empty) = .ok broken ∧
      clean.trouble = none ∧ clean.slots.map Option.isSome = [true, false] ∧
      broken.slots.map Option.isSome = [false] ∧
      ∀ message, ¬LosesOnly 1 message "src" .empty clean broken := by
  have one : (intake "src" .empty (Feed.ofBytes policyAndBrokenByte.broken).outcomes).slots.map Option.isSome = [false] := by
    decide +kernel
  refine ⟨_, _, rfl, rfl, policy_taken.1, policy_taken.2, one, ?_⟩
  intro message loses
  have lost := congrArg (Option.map Option.isSome) loses.lost
  rw [← List.getElem?_map] at lost
  cases (congrArg (·[1]?) one).symm.trans lost

end AccessPolicy.Source
