import AccessPolicy.Proofs.Source.Explanation
import AccessPolicy.Proofs.Source.Isolation
import AccessPolicy.Proofs.Source.Layout
import AccessPolicy.Proofs.Source.Regular
import AccessPolicy.Proofs.Yaml.Quoting

namespace AccessPolicy.Source

open Yaml (Quote)

section Locating

variable {text : List Char} {p : Part}

/-- A part is a block of its text, and behind as many feeds as it tells. -/
theorem exists_block_of_part (member : p ∈ parts (Text.lines text)) :
    ∃ before after, text = before ++ (p.text ++ after) ∧ Yaml.IsBlock before p.text after ∧
      before.count '\n' = p.start := by
  obtain ⟨whole, before, after, split, place⟩ := (parts_eq_iff.mp rfl : Layout 0 _ (parts _)).exists_block member
  obtain ⟨lead, head, body, form, -⟩ := whole.form
  have lines : p.lines ≠ [] := by simp [form]
  have begins := Text.getLast?_flatten_of_append split (by simp [lines])
  have behind : Text.lines (p.lines ++ after).flatten = p.lines ++ after := Text.lines_flatten_of_behind split
  have feeds : before.flatten.count '\n' = before.length := by
    rcases begins with rfl | ends
    · rfl
    · rw [← Text.length_lines_of_ends ends, Text.lines_flatten_of_append split]
  refine ⟨before.flatten, after.flatten, ?_, ⟨?_, ?_⟩, ?_⟩
  · rw [← Text.flatten_lines text, split, List.flatten_append, List.flatten_append, Part.text]
  · exact begins.imp_left fun first => by rw [first, List.flatten_nil]
  · by_cases more : after = []
    · exact .inl (by rw [more, List.flatten_nil])
    · exact .inr ((Text.getLast?_flatten_of_append behind more).resolve_left lines)
  · rw [feeds, place, Nat.zero_add]

end Locating

section Telling

/-- What is told in short, if it says that a property is not known. -/
def abridge (quotes : List (List Quote)) : List (List Quote) :=
  match unknownProperty? (Quote.tell quotes).toList with
  | some name => [[.words ("Unknown property: " ++ String.ofList name)]]
  | none => quotes

/-- What is told of the failure to read a text, each paragraph in pieces. -/
def told? (text : List Char) (failure : Yaml.Failure) : Option (List (List Quote)) :=
  if isMarkup failure then (failure.quotes? text).map abridge else failure.quotes? text

theorem tell_abridge (quotes : List (List Quote)) : Quote.tell (abridge quotes) = shorten (Quote.tell quotes) := by
  unfold abridge
  cases found : unknownProperty? (Quote.tell quotes).toList with
  | none => exact (shorten_of_none found).symm
  | some name =>
    rw [shorten_of_some found]
    simp [Quote.tell, Yaml.quotes_words]

theorem wording_eq_told (text : List Char) (failure : Yaml.Failure) :
    (Trouble.markup text failure).wording? = (told? text failure).map Quote.tell := by
  rw [Trouble.wording?, told?, Yaml.message_eq_map_quotes]
  split
  · rw [Option.map_map, Option.map_map]
    exact congrArg (Option.map · _) (funext fun quotes => (tell_abridge quotes).symm)
  · rfl

/-- Whether a failure to read a text is one of the form, and what is said of it says that a property is not known. -/
def IsAbridged (text : List Char) (failure : Yaml.Failure) : Prop :=
  isMarkup failure = true ∧ ∃ message name, failure.message? text = some message ∧
    unknownProperty? message.toList = some name

/-- Whether all places that are told of a failure are those of the whole, if other text stands before. Before a place of
a form, nothing but feeds may end lines, and before a character that may not occur there may be nothing but feeds. -/
def IsInPlace (before : List Char) : Yaml.Failure → Prop
  | .character .. => ∀ ch ∈ before, ch = '\n'
  | .form fault => EndsOnFeeds before ∧ fault.problem.countsInside = false
  | .scalar _ => True

theorem isPlaced_iff {before : List Char} {n : Nat} (feeds : before.count '\n' = n) (failure : Yaml.Failure) :
    failure.IsPlaced n before ↔ IsInPlace before failure := by
  subst feeds
  cases failure with
  | character c position =>
    rw [Yaml.Failure.IsPlaced, IsInPlace, List.count_eq_length]
    exact ⟨fun all ch member => (all ch member).symm, fun all ch member => (all ch member).symm⟩
  | form fault => rw [Yaml.Failure.IsPlaced, IsInPlace, count_feeds_eq_iff]
  | scalar fault => exact Iff.rfl

/-- All places that are told of a part that is refused are those of the text exactly if those of the failure are, or none
is told. -/
theorem designates_told_iff {before after : List Char} {p : Part} (block : Yaml.IsBlock before p.text after)
    (feeds : before.count '\n' = p.start) {failure : Yaml.Failure} (failed : Yaml.load p.padded = .error failure)
    {quotes : List (List Quote)} (told : told? p.padded failure = some quotes) :
    (∀ q ∈ quotes.flatten, q.Designates (before ++ (p.text ++ after)) after.length) ↔
      IsInPlace before failure ∨ IsAbridged p.padded failure := by
  unfold told? at told
  split at told
  · rename_i form
    obtain ⟨whole, full, rfl⟩ := Option.map_eq_some_iff.mp told
    have message : failure.message? p.padded = some (Quote.tell whole) := by rw [Yaml.message_eq_map_quotes, full]; rfl
    have placed := (Yaml.designates_failure_iff block failed full).trans (isPlaced_iff feeds failure)
    unfold abridge
    cases found : unknownProperty? (Quote.tell whole).toList with
    | none => simpa [IsAbridged, message, found] using placed
    | some name => simp [IsAbridged, form, message, found]
  · rename_i other
    rw [Yaml.designates_failure_iff block failed told, isPlaced_iff feeds]
    simp [IsAbridged, other]

end Telling

/-- Of each part of a text that is refused and taken in, all places that are quoted are places of the whole text exactly
if the failure is in its place there, or is told in short and quotes none. -/
theorem quotes_designate_iff (text identity : String) (prior : Diagnostics) :
    ∃ stream, (ofText text identity).outcomes.map (intake identity prior) = .ok stream ∧
      ∀ k p failure, k < stream.slots.length → (textParts text)[k]? = some p → Yaml.load p.padded = .error failure →
        ∃ before after quotes, text.toList = before ++ (p.text ++ after) ∧ before.count '\n' = p.start ∧
          told? p.padded failure = some quotes ∧
          prior.newMessages stream.diagnostics (itemIdentity identity (k + 1)) =
            ["Error parsing the policy document: " ++ Quote.tell quotes] ∧
          ((∀ q ∈ quotes.flatten, q.Designates text.toList after.length) ↔
            IsInPlace before failure ∨ IsAbridged p.padded failure) := by
  obtain ⟨taken, rest, trouble, split, confined, run, -⟩ := intake_parts identity prior (textParts text)
  refine ⟨_, congrArg Except.ok run, fun k p failure within atK failed => ?_⟩
  have here : taken[k]? = some p := by
    have inTaken : k < taken.length := by simpa using within
    rw [← atK, split, List.getElem?_append_left inTaken]
  obtain ⟨before, after, whole, block, feeds⟩ := exists_block_of_part (List.mem_of_getElem? atK)
  have trouble := Part.load_of_error failed
  obtain ⟨wording, worded⟩ : ∃ wording, (Trouble.markup p.padded failure).wording? = some wording := by
    rcases p.load_error_cases trouble with ⟨escapes, -⟩ | ⟨-, worded⟩
    · exact absurd escapes (confined p (List.mem_of_getElem? here))
    · exact worded
  have outcome : p.outcome.reception = .told ("Error parsing the policy document: " ++ wording) := by
    simp [Part.outcome, trouble, Outcome.reception, worded]
  obtain ⟨quotes, told, rfl⟩ := Option.map_eq_some_iff.mp ((wording_eq_told _ _).symm.trans worded)
  refine ⟨before, after, quotes, whole, feeds, told, ?_, ?_⟩
  · have atOutcome : (taken.map Part.outcome)[k]? = some p.outcome := by simp [here]
    rw [newMessages_notesFrom prior atOutcome, outcome]
    rfl
  · rw [whole]
    exact designates_told_iff block feeds failed told

/-- A bracket that is not closed, in the second of two documents. -/
def unclosedText : String := "---\n---\na: [b\n"

/-- The second document. -/
def unclosedSecond : Part := ⟨1, ["---\n".toList, "a: [b\n".toList]⟩

/-- What it is refused for. -/
def unclosedFault : Yaml.Fault :=
  ⟨.event, some (.flowSequence, some ⟨3, 1, 3⟩), .expectedSequenceEnd "<stream end>", ⟨0, 0, 0⟩⟩

theorem unclosedText_in_place :
    ∃ stream quotes, (ofText unclosedText "src").outcomes.map (intake "src" .empty) = .ok stream ∧
      Diagnostics.empty.newMessages stream.diagnostics "src[2]" =
        ["Error parsing the policy document: " ++ Quote.tell quotes] ∧
      ∃ behind, ∀ q ∈ quotes.flatten, q.Designates unclosedText.toList behind := by
  obtain ⟨stream, run, each⟩ := quotes_designate_iff unclosedText "src" .empty
  have slots : ((ofText unclosedText "src").outcomes.map fun outcomes =>
      (intake "src" .empty outcomes).slots.length).toOption = some 2 := by decide +kernel
  have within : 1 < stream.slots.length := by
    cases read : (ofText unclosedText "src").outcomes with
    | error fault => simp [read, Except.map, Except.toOption] at slots
    | ok outcomes =>
      simp only [read, Except.map, Except.toOption, Option.some.injEq, Except.ok.injEq] at slots run
      rw [← run, slots]
      decide
  have refused : (Yaml.load unclosedSecond.padded).map (fun _ => ()) = .error (.form unclosedFault) := by decide +kernel
  have failed : Yaml.load unclosedSecond.padded = .error (.form unclosedFault) := by
    cases loaded : Yaml.load unclosedSecond.padded with
    | ok value => simp [loaded, Except.map] at refused
    | error failure => simpa [loaded, Except.map] using refused
  obtain ⟨before, after, quotes, whole, feeds, -, told, designates⟩ :=
    each 1 unclosedSecond _ within (by decide +kernel) failed
  refine ⟨stream, quotes, run, told, after.length, designates.mpr (.inl ⟨?_, rfl⟩)⟩
  have ends : ∀ n ≤ unclosedText.toList.length, EndsOnFeeds (unclosedText.toList.take n) := by decide +kernel
  have first : unclosedText.toList.take before.length = before := by rw [whole, List.take_left]
  exact first ▸ ends before.length (by simp [whole])

/-- A character that may not occur, in the second of two documents. It is told that five characters stand before it, and
eight do. -/
theorem forbidden_out_of_place :
    ((ofText "---\n---\n\x01\n" "src").outcomes.map fun outcomes =>
        Diagnostics.empty.newMessages (intake "src" .empty outcomes).diagnostics "src[2]").toOption =
      some ["Error parsing the policy document: unacceptable character #x0001: special characters are not allowed\n  in \"<unicode string>\", position 5"] ∧
    Yaml.firstForbidden? "---\n---\n\x01\n".toList = some ('\x01', 8) := by
  decide +kernel

end AccessPolicy.Source
