import AccessPolicy.Proofs.Source.Slots
import AccessPolicy.Source

namespace AccessPolicy.Source

/-- The parts of a text. -/
def textParts (text : String) : List Part := parts (Text.lines text.toList)

/-- The faults that are not confined to the part they are in. -/
def escapingFaults : List Yaml.ScalarFault :=
  [.truthWord, .timestamp, .emptyNumber, .hugePlace, .hugeCodePoint]

/-- A part whose loading ends in such a fault. -/
def Part.Escapes (p : Part) : Prop :=
  ∃ fault ∈ escapingFaults, Yaml.load p.padded = .error (.scalar fault)

/-- What a part may leave behind: a document and no message, an empty slot and no message where its data is null,
or an empty slot and one message where it cannot be loaded, is no document, or is data of another kind. -/
inductive Part.Leaves (p : Part) : Option Document → List String → Prop
  | document {entries : List (Value × Value)} {d : Document} (loaded : p.load = .ok (.map entries))
      (read : Document.ofValue (.map entries) = .ok d) : p.Leaves (some d) []
  | null (loaded : p.load = .ok .null) : p.Leaves none []
  | unloaded {t : Trouble} {wording : String} (failed : p.load = .error t) (worded : t.wording? = some wording) :
      p.Leaves none ["Error parsing the policy document: " ++ wording]
  | unread {entries : List (Value × Value)} {faults : List Document.SchemaFault}
      (loaded : p.load = .ok (.map entries)) (misfit : Document.ofValue (.map entries) = .error faults) :
      p.Leaves none ["Error parsing the policy document: " ++ Document.faultsMessage faults]
  | foreign {v : Value} (loaded : p.load = .ok v) (something : v ≠ .null) (noMap : ∀ entries, v ≠ .map entries) :
      p.Leaves none ["Expected a policy document, but was type: " ++ v.kind]

theorem failure_message_eq_none_iff (text : List Char) {failure : Yaml.Failure} :
    failure.message? text = none ↔ ∃ fault ∈ escapingFaults, failure = .scalar fault := by
  cases failure with
  | character | form => simp [Yaml.Failure.message?]
  | scalar fault => cases fault <;> simp [Yaml.Failure.message?, Yaml.ScalarFault.message?, escapingFaults]

theorem markup_wording_eq_none_iff (text : List Char) {failure : Yaml.Failure} :
    (Trouble.markup text failure).wording? = none ↔ ∃ fault ∈ escapingFaults, failure = .scalar fault := by
  rw [← failure_message_eq_none_iff text, Trouble.wording?]
  split <;> simp

theorem Part.load_of_ok {p : Part} {v : Value} (loaded : Yaml.load p.padded = .ok v) : p.load = .ok v := by
  rw [Part.load, loaded]
  rfl

theorem Part.load_of_error {p : Part} {failure : Yaml.Failure} (failed : Yaml.load p.padded = .error failure) :
    p.load = .error (.markup p.padded failure) := by
  rw [Part.load, failed]
  rfl

/-- A part that does not load has an escaping fault, or its trouble has a wording. -/
theorem Part.load_error_cases {p : Part} {t : Trouble} (failed : p.load = .error t) :
    (p.Escapes ∧ t.wording? = none) ∨ ¬p.Escapes ∧ ∃ wording, t.wording? = some wording := by
  cases loaded : Yaml.load p.padded with
  | ok v => simp [Part.load_of_ok loaded] at failed
  | error failure =>
    obtain rfl : Trouble.markup p.padded failure = t := by simpa [Part.load_of_error loaded] using failed
    have escapes : p.Escapes ↔ ∃ fault ∈ escapingFaults, failure = .scalar fault := by simp [Part.Escapes, loaded]
    rw [escapes, ← markup_wording_eq_none_iff p.padded]
    cases (Trouble.markup p.padded failure).wording? with
    | none => exact Or.inl ⟨rfl, rfl⟩
    | some wording => exact Or.inr ⟨by simp, wording, rfl⟩

theorem Part.not_escapes_of_load {p : Part} {v : Value} (loaded : p.load = .ok v) : ¬p.Escapes := by
  rintro ⟨fault, _, failed⟩
  simp [Part.load_of_error failed] at loaded

/-- The data of a part is taken in, and leaves behind what data of its kind does. -/
theorem Part.reception_of_load {p : Part} {v : Value} (loaded : p.load = .ok v) :
    p.outcome.reception.continues = true ∧ p.Leaves p.outcome.reception.slot p.outcome.reception.messages := by
  have outcome : p.outcome = .ofData v := by simp [Part.outcome, loaded]
  rw [outcome]
  cases v with
  | map entries =>
    cases read : Document.ofValue (.map entries) with
    | ok d =>
      simp only [Outcome.ofData, read, Outcome.reception, Reception.continues, Reception.slot, Reception.messages]
      exact ⟨trivial, .document loaded read⟩
    | error faults =>
      simp only [Outcome.ofData, read, Outcome.reception, Trouble.wording?, Reception.continues, Reception.slot,
        Reception.messages]
      exact ⟨trivial, .unread loaded read⟩
  | null => exact ⟨rfl, .null loaded⟩
  | bool | int | float | text | bytes | date | moment | list | tuple | set =>
    exact ⟨rfl, .foreign loaded (by simp) (by simp)⟩

/-- A part that does not escape is taken in. -/
theorem Part.reception_of_not_escapes {p : Part} (confined : ¬p.Escapes) :
    p.outcome.reception.continues = true ∧ p.Leaves p.outcome.reception.slot p.outcome.reception.messages := by
  cases loaded : p.load with
  | ok v => exact p.reception_of_load loaded
  | error t =>
    rcases p.load_error_cases loaded with ⟨escapes, _⟩ | ⟨_, wording, worded⟩
    · exact absurd escapes confined
    · have reception : p.outcome.reception = .told ("Error parsing the policy document: " ++ wording) := by
        simp [Part.outcome, loaded, Outcome.reception, worded]
      rw [reception]
      exact ⟨rfl, .unloaded loaded worded⟩

theorem Part.reception_of_escapes {p : Part} (escapes : p.Escapes) :
    ∃ t, p.load = .error t ∧ p.outcome.reception = .abort t := by
  cases loaded : p.load with
  | ok v => exact absurd escapes (p.not_escapes_of_load loaded)
  | error t =>
    rcases p.load_error_cases loaded with ⟨_, unworded⟩ | ⟨confined, _⟩
    · exact ⟨t, rfl, by simp [Part.outcome, loaded, Outcome.reception, unworded]⟩
    · exact absurd escapes confined

theorem Part.exists_first_escape (parts : List Part) :
    (∀ p ∈ parts, ¬p.Escapes) ∨ ∃ before p after, parts = before ++ p :: after ∧
      (∀ q ∈ before, ¬q.Escapes) ∧ p.Escapes := by
  induction parts with
  | nil => exact Or.inl (by simp)
  | cons first rest ih =>
    by_cases escapes : first.Escapes
    · exact Or.inr ⟨[], first, rest, rfl, by simp, escapes⟩
    · rcases ih with none | ⟨before, p, after, rfl, confined, later⟩
      · exact Or.inl (List.forall_mem_cons.mpr ⟨escapes, none⟩)
      · exact Or.inr ⟨first :: before, p, after, rfl, List.forall_mem_cons.mpr ⟨escapes, confined⟩, later⟩

/-- Parts are taken in up to the first that escapes, whose trouble then ends everything, or to the last. -/
theorem intake_parts (source : String) (prior : Diagnostics) (parts : List Part) :
    ∃ taken rest trouble, parts = taken ++ rest ∧ (∀ p ∈ taken, ¬p.Escapes) ∧
      intake source prior (parts.map Part.outcome) =
        ⟨(taken.map Part.outcome).map fun o => o.reception.slot,
          prior.extend (notesFrom source 1 (taken.map Part.outcome)), trouble⟩ ∧
      (rest = [] ∧ trouble = none ∨
        ∃ p after t, rest = p :: after ∧ p.Escapes ∧ p.load = .error t ∧ trouble = some t) := by
  rcases Part.exists_first_escape parts with confined | ⟨before, p, after, rfl, confined, escapes⟩
  · refine ⟨parts, [], none, by simp, confined, intake_all ?_, Or.inl ⟨rfl, rfl⟩⟩
    simpa using fun p member => (Part.reception_of_not_escapes (confined p member)).1
  · obtain ⟨t, failed, abort⟩ := Part.reception_of_escapes escapes
    refine ⟨before, p :: after, some t, rfl, confined, ?_, Or.inr ⟨p, after, t, rfl, escapes, failed, rfl⟩⟩
    rw [List.map_append, List.map_cons]
    refine intake_abort ?_ abort
    simpa using fun q member => (Part.reception_of_not_escapes (confined q member)).1

/-- A text is taken in to its end, with one slot for each part, exactly if no part escapes; otherwise everything
ends at the first part that does, with the trouble of its loading. In either case each part that has been taken in
leaves behind what it should, under its own identity, and nothing else is recorded. -/
theorem text_intake_iff (text identity : String) (prior : Diagnostics) :
    ∃ stream, (ofText text identity).outcomes.map (intake identity prior) = .ok stream ∧
      (stream.trouble = none ∧ stream.slots.length = (textParts text).length ↔ ∀ p ∈ textParts text, ¬p.Escapes) ∧
      (∀ t, stream.trouble = some t →
        ∃ p : Part, (textParts text)[stream.slots.length]? = some p ∧ p.Escapes ∧ p.load = .error t) ∧
      (∀ k slot, stream.slots[k]? = some slot → ∃ p : Part, (textParts text)[k]? = some p ∧
        p.Leaves slot (prior.newMessages stream.diagnostics (itemIdentity identity (k + 1)))) ∧
      (∀ other, prior.messagesFor other <+: stream.diagnostics.messagesFor other) ∧
      ∀ other, prior.newMessages stream.diagnostics other ≠ [] →
        ∃ k < stream.slots.length, other = itemIdentity identity (k + 1) := by
  obtain ⟨taken, rest, trouble, split, confined, run, ending⟩ := intake_parts identity prior (textParts text)
  refine ⟨_, congrArg Except.ok run, ?_, ?_, ?_, ?_, ?_⟩
  · rw [split]
    rcases ending with ⟨rfl, rfl⟩ | ⟨p, after, t, rfl, escapes, _, rfl⟩
    · simpa using confined
    · simp only [reduceCtorEq, false_and, false_iff]
      exact fun all => all p (by simp) escapes
  · rintro t found
    rcases ending with ⟨_, rfl⟩ | ⟨p, after, t', rfl, escapes, failed, rfl⟩
    · simp at found
    · obtain rfl : t' = t := by simpa using found
      exact ⟨p, by simp [split], escapes, failed⟩
  · intro k slot atK
    simp only [List.map_map, List.getElem?_map, Option.map_eq_some_iff] at atK
    obtain ⟨p, atPart, rfl⟩ := atK
    refine ⟨p, ?_, ?_⟩
    · rw [split, List.getElem?_append_left (List.getElem?_eq_some_iff.mp atPart).1, atPart]
    · rw [newMessages_notesFrom prior (o := p.outcome) (by simp [atPart])]
      exact (Part.reception_of_not_escapes (confined p (List.mem_of_getElem? atPart))).2
  · intro other
    rw [Diagnostics.messagesFor_extend]
    exact List.prefix_append ..
  · intro other fresh
    obtain ⟨k, bound, same⟩ := exists_slot_of_newMessages fresh
    exact ⟨k, by simpa using bound, same⟩

/-- A word under the tag of truth that is none escapes. -/
theorem truth_word_ends_intake :
    ((ofText "!!bool maybe\n" "src").outcomes.map fun outcomes =>
      (intake "src" .empty outcomes).trouble.isSome).toOption = some true := by
  decide +kernel

end AccessPolicy.Source
