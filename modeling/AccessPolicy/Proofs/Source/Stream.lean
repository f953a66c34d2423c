import AccessPolicy.Proofs.Source.Slots
import AccessPolicy.Source.Answer

namespace AccessPolicy.Source

/-- An interruption that is neither the end nor a failure to read counts as something that concerns one item. -/
structure Interruption.IsConfined (i : Interruption) : Prop where
  goesOn : InterruptionKind.exhausted ∉ i.kinds ∧ InterruptionKind.unreadable ∉ i.kinds
  counts : ∃ kind ∈ i.kinds, kind ∈ [InterruptionKind.markup, .value, .type, .operation]

/-- What an answer leaves behind that concerns its item only. A document is its own slot and null is an empty one. All
else leaves an empty slot and one message: maps that are no documents where maps are read, other data, and failures. -/
inductive Answer.Leaves (reading : Bool) : Answer → Option Document → List String → Prop
  | document (d : Document) : (document d).Leaves reading (some d) []
  | null : (data .null).Leaves reading none []
  | read {entries : List (Value × Value)} {d : Document} (reads : reading = true)
      (fits : Document.ofValue (.map entries) = .ok d) : (data (.map entries)).Leaves reading (some d) []
  | unread {entries : List (Value × Value)} {faults : List Document.SchemaFault} (reads : reading = true)
      (misfits : Document.ofValue (.map entries) = .error faults) :
      (data (.map entries)).Leaves reading none ["Error parsing the policy document: " ++ Document.faultsMessage faults]
  | foreign {v : Value} (something : v ≠ .null) (noMap : reading = true → ∀ entries, v ≠ .map entries) :
      (data v).Leaves reading none ["Expected a policy document, but was type: " ++ v.kind]
  | failed {t : Trouble} {wording : String} (worded : t.wording? = some wording) :
      (failed t).Leaves reading none ["Error parsing the policy document: " ++ wording]
  | interrupted {i : Interruption} {wording : String} (confined : i.IsConfined)
      (worded : wording =
        if InterruptionKind.markup ∈ i.kinds then i.report.explanation?.getD "None" else i.report.message) :
      (interrupted i).Leaves reading none ["Error parsing the policy document: " ++ wording]

/-- An answer that is the end: there are no more items, or they cannot be read. -/
def Answer.Ends : Answer → Prop
  | .interrupted i => InterruptionKind.exhausted ∈ i.kinds ∨ InterruptionKind.unreadable ∈ i.kinds
  | _ => False

/-- An answer that lets its trouble through, which nobody is prepared for. -/
inductive Answer.LetsThrough : Answer → Trouble → Prop
  | failed {t : Trouble} (unworded : t.wording? = none) : (failed t).LetsThrough t
  | interrupted {i : Interruption} (unforeseen : ∀ kind : InterruptionKind, kind ∉ i.kinds) :
      (interrupted i).LetsThrough (.reported i.name .all i.report)

theorem Answer.Leaves.not_ends {reading : Bool} {a : Answer} {slot : Option Document} {messages : List String}
    (leaves : a.Leaves reading slot messages) : ¬a.Ends ∧ ∀ t, ¬a.LetsThrough t := by
  cases leaves with
  | failed worded =>
    refine ⟨id, fun t through => ?_⟩
    cases through with
    | failed unworded => simp [worded] at unworded
  | interrupted confined _ =>
    obtain ⟨kind, member, _⟩ := confined.counts
    refine ⟨fun ends => ends.elim confined.goesOn.1 confined.goesOn.2, fun t through => ?_⟩
    cases through with
    | interrupted unforeseen => exact unforeseen kind member
  | _ => exact ⟨id, fun t through => nomatch through⟩

/-- An interruption is confined to its item, or it is the end, or nobody is prepared for it. -/
theorem Interruption.reception_cases (i : Interruption) :
    (i.IsConfined ∧ i.outcome.reception = .told ("Error parsing the policy document: " ++
        if InterruptionKind.markup ∈ i.kinds then i.report.explanation?.getD "None" else i.report.message)) ∨
      ((InterruptionKind.exhausted ∈ i.kinds ∨ InterruptionKind.unreadable ∈ i.kinds) ∧
        i.outcome.reception = .stop) ∨
      (∀ kind : InterruptionKind, kind ∉ i.kinds) ∧ i.outcome.reception = .abort (.reported i.name .all i.report) := by
  by_cases ends : InterruptionKind.exhausted ∈ i.kinds ∨ InterruptionKind.unreadable ∈ i.kinds
  · refine Or.inr (Or.inl ⟨ends, ?_⟩)
    unfold Interruption.outcome
    by_cases exhausted : InterruptionKind.exhausted ∈ i.kinds
    · simp [exhausted, Outcome.reception]
    · simp [exhausted, ends.resolve_left exhausted, Outcome.reception]
  · obtain ⟨more, readable⟩ := not_or.mp ends
    have failed : i.outcome = .failed (.reported i.name i.reach i.report) := by
      simp [Interruption.outcome, more, readable]
    rw [failed]
    by_cases markup : InterruptionKind.markup ∈ i.kinds
    · refine Or.inl ⟨⟨⟨more, readable⟩, .markup, markup, by simp⟩, ?_⟩
      simp [Interruption.reach, Outcome.reception, Trouble.wording?, markup]
    · by_cases item : ∃ kind ∈ i.kinds, kind ∈ [InterruptionKind.value, .type, .operation]
      · obtain ⟨kind, member, counts⟩ := item
        have counted : i.kinds.any [InterruptionKind.value, .type, .operation].contains = true :=
          List.any_eq_true.mpr ⟨kind, member, List.contains_iff_mem.mpr counts⟩
        have reach : i.reach = .item := by
          rw [Interruption.reach, counted]
          simp [markup]
        refine Or.inl ⟨⟨⟨more, readable⟩, kind, member, List.mem_cons_of_mem _ counts⟩, ?_⟩
        simp [reach, Outcome.reception, Trouble.wording?, markup]
      · have reach : i.reach = .all := by simpa [Interruption.reach, markup] using item
        refine Or.inr (Or.inr ⟨fun kind member => ?_, by simp [reach, Outcome.reception, Trouble.wording?]⟩)
        cases kind with
        | exhausted => exact more member
        | unreadable => exact readable member
        | markup => exact markup member
        | value | type | operation => exact item ⟨_, member, by simp⟩

/-- What data leaves behind where maps are read. -/
theorem Outcome.ofData_leaves (v : Value) :
    (ofData v).reception.continues = true ∧
      (Answer.data v).Leaves true (ofData v).reception.slot (ofData v).reception.messages := by
  cases v with
  | map entries =>
    cases fits : Document.ofValue (.map entries) with
    | ok d =>
      simp only [ofData, fits, reception, Reception.continues, Reception.slot, Reception.messages]
      exact ⟨trivial, .read rfl fits⟩
    | error faults =>
      simp only [ofData, fits, reception, Trouble.wording?, Reception.continues, Reception.slot, Reception.messages]
      exact ⟨trivial, .unread rfl fits⟩
  | null => exact ⟨rfl, .null⟩
  | bool | int | float | text | bytes | date | moment | list | tuple | set =>
    exact ⟨rfl, .foreign (by simp) (by simp)⟩

/-- An answer concerns its item only, or it is the end, or it lets its trouble through. -/
theorem Answer.reception_cases (reading : Bool) (a : Answer) :
    ((a.outcomeBy reading).reception.continues = true ∧
        a.Leaves reading (a.outcomeBy reading).reception.slot (a.outcomeBy reading).reception.messages) ∨
      (a.Ends ∧ (a.outcomeBy reading).reception = .stop) ∨
      ∃ t, a.LetsThrough t ∧ (a.outcomeBy reading).reception = .abort t := by
  cases a with
  | document d => cases reading <;> exact Or.inl ⟨rfl, .document d⟩
  | data v =>
    cases reading with
    | true => exact Or.inl (Outcome.ofData_leaves v)
    | false =>
      cases v with
      | null => exact Or.inl ⟨rfl, .null⟩
      | _ => exact Or.inl ⟨rfl, .foreign (by simp) (by simp)⟩
  | failed t =>
    have same : (failed t).outcomeBy reading = .failed t := by cases reading <;> rfl
    rw [same]
    cases worded : t.wording? with
    | some wording =>
      simp only [Outcome.reception, worded]
      exact Or.inl ⟨rfl, .failed worded⟩
    | none => exact Or.inr (Or.inr ⟨t, .failed worded, by simp [Outcome.reception, worded]⟩)
  | interrupted i =>
    have same : (interrupted i).outcomeBy reading = i.outcome := by
      cases reading with
      | false => rfl
      | true =>
        simp only [outcomeBy, outcome, Interruption.outcome, if_true]
        split
        · rfl
        · split <;> rfl
    rw [same]
    rcases i.reception_cases with ⟨confined, told⟩ | ⟨ends, stop⟩ | ⟨unforeseen, abort⟩
    · rw [told]
      exact Or.inl ⟨rfl, .interrupted confined rfl⟩
    · exact Or.inr (Or.inl ⟨ends, stop⟩)
    · exact Or.inr (Or.inr ⟨_, .interrupted unforeseen, abort⟩)

/-- Answers are taken in up to the first that does not concern its item only, or to the last. -/
theorem Answer.exists_taken (reading : Bool) (script : List Answer) :
    ∃ taken rest, script = taken ++ rest ∧
      (∀ a ∈ taken, (a.outcomeBy reading).reception.continues = true ∧
        a.Leaves reading (a.outcomeBy reading).reception.slot (a.outcomeBy reading).reception.messages) ∧
      (rest = [] ∨ ∃ a after, rest = a :: after ∧ (a.Ends ∧ (a.outcomeBy reading).reception = .stop ∨
        ∃ t, a.LetsThrough t ∧ (a.outcomeBy reading).reception = .abort t)) := by
  induction script with
  | nil => exact ⟨[], [], rfl, by simp, Or.inl rfl⟩
  | cons a after ih =>
    rcases a.reception_cases reading with goesOn | stops
    · obtain ⟨taken, rest, rfl, each, ending⟩ := ih
      exact ⟨a :: taken, rest, rfl, List.forall_mem_cons.mpr ⟨goesOn, each⟩, ending⟩
    · exact ⟨[], a :: after, rfl, by simp, Or.inr ⟨a, after, rfl, stops⟩⟩

/-- What becomes of a script of answers whose first part is taken in. -/
structure Stream.Accounts (s : Stream) (reading : Bool) (source : Option String) (log : Option Diagnostics)
    (taken rest : List Answer) : Prop where
  /-- Each answer that is taken in has one slot, and what it leaves behind stands there and under its own identity. -/
  slots : s.slots.length = taken.length
  each : ∀ k a, taken[k]? = some a → ∃ slot messages, a.Leaves reading slot messages ∧ s.slots[k]? = some slot ∧
    ∀ prior, log = some prior → ∃ after, s.log = some after ∧
      prior.newMessages after (itemIdentity (source.getD "") (k + 1)) = messages
  /-- Nothing that was recorded before is lost, and nothing else is recorded. -/
  only : ∀ prior, log = some prior → ∃ after, s.log = some after ∧
    (∀ other, prior.messagesFor other <+: after.messagesFor other) ∧
    ∀ other, prior.newMessages after other ≠ [] → ∃ k < taken.length, other = itemIdentity (source.getD "") (k + 1)
  unlogged : log = none → s.log = none
  /-- The first answer that is not taken in is the end, or lets its trouble through. -/
  ending : rest = [] ∧ s.trouble = none ∨ ∃ a after, rest = a :: after ∧
    (a.Ends ∧ s.trouble = none ∨ ∃ t, a.LetsThrough t ∧ s.trouble = some t)

/-- A stream has the slots and the messages of what is taken in, whatever messages there are before. -/
theorem exists_stream_eq {reading : Bool} (source : Option String) {taken rest : List Answer}
    (continues : ∀ a ∈ taken, (a.outcomeBy reading).reception.continues = true)
    (ending : rest = [] ∨ ∃ a after, rest = a :: after ∧ (a.Ends ∧ (a.outcomeBy reading).reception = .stop ∨
        ∃ t, a.LetsThrough t ∧ (a.outcomeBy reading).reception = .abort t)) :
    ∃ trouble, (∀ log, stream reading source log (taken ++ rest) =
        ⟨taken.map fun a => (a.outcomeBy reading).reception.slot,
          log.map fun prior => prior.extend (notesFrom (source.getD "") 1 (taken.map (Answer.outcomeBy reading))),
          trouble⟩) ∧
      (rest = [] ∧ trouble = none ∨ ∃ a after, rest = a :: after ∧
        (a.Ends ∧ trouble = none ∨ ∃ t, a.LetsThrough t ∧ trouble = some t)) := by
  have last : ∃ trouble, (∀ index d, intakeFrom (source.getD "") index d (rest.map (Answer.outcomeBy reading)) =
        ⟨[], d, trouble⟩) ∧ (rest = [] ∧ trouble = none ∨ ∃ a after, rest = a :: after ∧
        (a.Ends ∧ trouble = none ∨ ∃ t, a.LetsThrough t ∧ trouble = some t)) := by
    rcases ending with rfl | ⟨a, after, rfl, ⟨ends, stop⟩ | ⟨t, through, abort⟩⟩
    · exact ⟨none, fun index d => rfl, Or.inl ⟨rfl, rfl⟩⟩
    · exact ⟨none, fun index d => by simp [intakeFrom, stop], Or.inr ⟨a, after, rfl, Or.inl ⟨ends, rfl⟩⟩⟩
    · exact ⟨some t, fun index d => by simp [intakeFrom, abort], Or.inr ⟨a, after, rfl, Or.inr ⟨t, through, rfl⟩⟩⟩
  obtain ⟨trouble, stops, why⟩ := last
  refine ⟨trouble, fun log => ?_, why⟩
  have passed : ∀ o ∈ taken.map (Answer.outcomeBy reading), o.reception.continues = true := by
    simpa using continues
  unfold stream intake
  rw [List.map_append, intakeFrom_append _ passed, stops]
  cases log <;> simp [Intake.behind]

/-- Every script of answers is taken in up to the first that is the end or lets its trouble through. Each answer before
it is accounted for, and the slots and the trouble are the same whatever messages there are and whether they are kept. -/
theorem script_accounts (reading : Bool) (source : Option String) (log : Option Diagnostics) (script : List Answer) :
    ∃ taken rest, script = taken ++ rest ∧ (∀ a ∈ taken, ¬a.Ends ∧ ∀ t, ¬a.LetsThrough t) ∧
      (stream reading source log script).Accounts reading source log taken rest ∧
      ∀ other, (stream reading source other script).slots = (stream reading source log script).slots ∧
        (stream reading source other script).trouble = (stream reading source log script).trouble := by
  obtain ⟨taken, rest, rfl, each, ending⟩ := Answer.exists_taken reading script
  obtain ⟨trouble, same, why⟩ := exists_stream_eq source (fun a member => (each a member).1) ending
  refine ⟨taken, rest, rfl, fun a member => (each a member).2.not_ends, ?_, fun other => by simp [same]⟩
  rw [same log]
  refine ⟨by simp, ?_, ?_, ?_, why⟩
  · intro k a atK
    refine ⟨_, _, (each a (List.mem_of_getElem? atK)).2, by simp [atK], ?_⟩
    rintro prior rfl
    exact ⟨_, rfl, newMessages_notesFrom prior (by simp [atK])⟩
  · rintro prior rfl
    refine ⟨_, rfl, fun other => ?_, fun other fresh => ?_⟩
    · rw [Diagnostics.messagesFor_extend]
      exact List.prefix_append ..
    · obtain ⟨k, bound, same⟩ := exists_slot_of_newMessages fresh
      exact ⟨k, by simpa using bound, same⟩
  · rintro rfl
    rfl

end AccessPolicy.Source
