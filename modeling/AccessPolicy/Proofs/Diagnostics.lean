import AccessPolicy.Diagnostics
import AccessPolicy.Proofs.Distinct

namespace AccessPolicy.Diagnostics

/-- Messages with more messages behind them. -/
def extend (d : Diagnostics) (notes : List Note) : Diagnostics := ⟨d.notes ++ notes⟩

/-- The messages under an identity in one collection of messages that another one does not have yet. -/
def newMessages (prior after : Diagnostics) (identity : String) : List String :=
  (after.messagesFor identity).drop (prior.messagesFor identity).length

theorem add_some (d : Diagnostics) (identity message : String) :
    d.add (some identity) message = d.extend [⟨identity, message⟩] := rfl

@[simp] theorem extend_nil (d : Diagnostics) : d.extend [] = d := by
  simp [extend]

@[simp] theorem extend_extend (d : Diagnostics) (notes more : List Note) :
    (d.extend notes).extend more = d.extend (notes ++ more) := by
  simp [extend]

theorem messagesFor_append (notes more : List Note) (identity : String) :
    messagesFor ⟨notes ++ more⟩ identity = messagesFor ⟨notes⟩ identity ++ messagesFor ⟨more⟩ identity := by
  simp [messagesFor]

theorem messagesFor_extend (d : Diagnostics) (notes : List Note) (identity : String) :
    (d.extend notes).messagesFor identity = d.messagesFor identity ++ messagesFor ⟨notes⟩ identity :=
  messagesFor_append d.notes notes identity

theorem messagesFor_flatMap {α : Type} (owners : List α) (told : α → Diagnostics) (identity : String) :
    messagesFor ⟨owners.flatMap fun owner => (told owner).notes⟩ identity =
      owners.flatMap fun owner => (told owner).messagesFor identity := by
  simp [messagesFor, List.filter_flatMap, List.map_flatMap]

/-- Where nothing was recorded under an identity, it has no messages. -/
theorem messagesFor_eq_nil {notes : List Note} {identity : String}
    (absent : ∀ note ∈ notes, note.identity ≠ identity) : messagesFor ⟨notes⟩ identity = [] := by
  have none : notes.filter (fun note => note.identity = identity) = [] := by
    simpa [List.filter_eq_nil_iff] using absent
  simp [messagesFor, none]

theorem exists_note_of_messagesFor_ne_nil {notes : List Note} {identity : String}
    (nonempty : messagesFor ⟨notes⟩ identity ≠ []) : ∃ note ∈ notes, note.identity = identity := by
  by_cases found : ∃ note ∈ notes, note.identity = identity
  · exact found
  · exact absurd (messagesFor_eq_nil fun note member same => found ⟨note, member, same⟩) nonempty

/-- A message may be recorded before others that stand under other identities. -/
theorem messagesFor_move {d : Diagnostics} {note : Note} {others rest : List Note} (identity : String)
    (apart : ∀ other ∈ others, other.identity ≠ note.identity) :
    (d.extend (note :: (others ++ rest))).messagesFor identity =
      (d.extend (others ++ note :: rest)).messagesFor identity := by
  by_cases own : note.identity = identity
  · have none : others.filter (fun other => other.identity = identity) = [] := by
      simpa [List.filter_eq_nil_iff, ← own] using apart
    simp [messagesFor, extend, own, none]
  · simp [messagesFor, extend, own]

theorem newMessages_eq {prior after : Diagnostics} {identity : String} {messages : List String}
    (grown : after.messagesFor identity = prior.messagesFor identity ++ messages) :
    prior.newMessages after identity = messages := by
  rw [newMessages, grown, List.drop_left]

theorem mem_identities {d : Diagnostics} {identity : String} :
    identity ∈ d.identities ↔ d.messagesFor identity ≠ [] := by
  simp [identities, messagesFor, List.filter_eq_nil_iff]

/-- Collections of messages that say the same under each identity have the same groups, in whatever order. -/
theorem groups_perm {d e : Diagnostics} (same : ∀ identity, d.messagesFor identity = e.messagesFor identity) :
    d.groups.Perm e.groups := by
  have identities : d.identities.Perm e.identities := by
    refine eraseDups_perm fun identity => ?_
    have either := @mem_identities d identity
    rw [same identity, ← mem_identities] at either
    simpa [Diagnostics.identities] using either
  have messages : d.messagesFor = e.messagesFor := funext same
  unfold groups
  rw [messages]
  exact identities.map _

end AccessPolicy.Diagnostics
