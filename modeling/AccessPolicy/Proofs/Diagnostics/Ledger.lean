import AccessPolicy.Proofs.Diagnostics

namespace AccessPolicy

/-- Messages by identity, the identity that had its first message first. -/
abbrev Ledger := List (String × List String)

namespace Ledger

/-- A ledger with one more message. An identity that has none yet comes last. -/
def record (identity message : String) : Ledger → Ledger
  | [] => [(identity, [message])]
  | (owner, messages) :: rest =>
    if owner = identity then (owner, messages ++ [message]) :: rest
    else (owner, messages) :: record identity message rest

/-- A ledger with all messages of another one, one identity after the other. -/
def recordAll (l other : Ledger) : Ledger :=
  other.foldl (fun l (identity, messages) => messages.foldl (fun l message => record identity message l) l) l

/-- The messages of an identity; none if it has no entry. -/
def find (l : Ledger) (identity : String) : List String := (l.lookup identity).getD []

/-- The number of messages. -/
def size (l : Ledger) : Nat := (l.map fun entry => entry.2.length).foldr (· + ·) 0

theorem record_of_not_mem {owners : List String} {identity message : String} (told : String → List String)
    (new : identity ∉ owners) :
    record identity message (owners.map fun owner => (owner, told owner)) =
      (owners.map fun owner => (owner, told owner)) ++ [(identity, [message])] := by
  induction owners with
  | nil => rfl
  | cons owner rest ih =>
    obtain ⟨other, new⟩ : identity ≠ owner ∧ identity ∉ rest := by simpa using new
    simp [record, Ne.symm other, ih new]

theorem record_of_mem {owners : List String} {identity message : String} {told told' : String → List String}
    (nodup : owners.Nodup) (known : identity ∈ owners) (more : told' identity = told identity ++ [message])
    (others : ∀ owner, owner ≠ identity → told' owner = told owner) :
    record identity message (owners.map fun owner => (owner, told owner)) =
      owners.map fun owner => (owner, told' owner) := by
  induction owners with
  | nil => cases known
  | cons owner rest ih =>
    obtain ⟨once, nodup⟩ := List.nodup_cons.mp nodup
    by_cases own : owner = identity
    · subst own
      have same : ∀ other ∈ rest, told other = told' other := fun other member =>
        (others other fun again => once (again ▸ member)).symm
      simp [record, more, List.map_congr_left fun other member => congrArg (Prod.mk other) (same other member)]
    · have known := (List.mem_cons.mp known).resolve_left (Ne.symm own)
      simp [record, own, others owner own, ih nodup known]

theorem find_map (owners : List String) (told : String → List String) (identity : String) :
    find (owners.map fun owner => (owner, told owner)) identity = if identity ∈ owners then told identity else [] := by
  induction owners with
  | nil => rfl
  | cons owner rest ih =>
    rw [find, List.map_cons, List.lookup_cons]
    by_cases own : identity = owner
    · simp [own]
    · have unlike : (identity == owner) = false := by simpa using own
      simpa [unlike, own, find] using ih

end Ledger

namespace Diagnostics

theorem nodup_identities (d : Diagnostics) : d.identities.Nodup := nodup_eraseDups

theorem messagesFor_add (d : Diagnostics) (identity? : Option String) (message identity : String) :
    (d.add identity? message).messagesFor identity =
      d.messagesFor identity ++ if identity?.getD "" = identity then [message] else [] := by
  rw [add, messagesFor_append]
  by_cases own : identity?.getD "" = identity <;> simp [messagesFor, own]

theorem identities_add (d : Diagnostics) (identity? : Option String) (message : String) :
    (d.add identity? message).identities =
      if identity?.getD "" ∈ d.identities then d.identities else d.identities ++ [identity?.getD ""] := by
  simp only [identities, add, List.map_append, List.map_singleton, eraseDups_concat, List.mem_eraseDups]

theorem messagesFor_of_not_mem {d : Diagnostics} {identity : String} (absent : identity ∉ d.identities) :
    d.messagesFor identity = [] := by
  by_contra some
  exact absent (mem_identities.mpr some)

/-- Recording a message does to the messages by identity what it does to a ledger. -/
theorem groups_add (d : Diagnostics) (identity? : Option String) (message : String) :
    (d.add identity? message).groups = Ledger.record (identity?.getD "") message d.groups := by
  simp only [groups, identities_add]
  split
  · rename_i known
    refine (Ledger.record_of_mem (nodup_identities d) known ?_ fun owner other => ?_).symm
    · simp [messagesFor_add]
    · simp [messagesFor_add, Ne.symm other]
  · rename_i new
    have none := messagesFor_of_not_mem new
    have same : ∀ owner ∈ d.identities, (owner, (d.add identity? message).messagesFor owner) =
        (owner, d.messagesFor owner) := by
      intro owner member
      have other : identity?.getD "" ≠ owner := fun own => new (own ▸ member)
      simp [messagesFor_add, other]
    rw [Ledger.record_of_not_mem _ new, List.map_append, List.map_congr_left same]
    simp [messagesFor_add, none]

theorem groups_extend (d : Diagnostics) (notes : List Note) :
    (d.extend notes).groups = notes.foldl (fun l note => Ledger.record note.identity note.message l) d.groups := by
  induction notes generalizing d with
  | nil => rw [extend_nil]; rfl
  | cons note rest ih =>
    have later := ih (d.add (some note.identity) note.message)
    rw [groups_add, add_some, extend_extend] at later
    exact later

/-- All messages, one identity after the other. -/
def copies (d : Diagnostics) : List Note :=
  d.groups.flatMap fun (identity, messages) => messages.map (Note.mk identity)

theorem merge_eq (d other : Diagnostics) : d.merge other = d.extend other.copies := rfl

/-- Merging does to the messages by identity what it does to a ledger. -/
theorem groups_merge (d other : Diagnostics) : (d.merge other).groups = Ledger.recordAll d.groups other.groups := by
  rw [merge_eq, groups_extend, copies, List.foldl_flatMap, Ledger.recordAll]
  simp only [List.foldl_map]

theorem flatMap_ite {α : Type} {owners : List String} (nodup : owners.Nodup) (told : String → List α)
    (identity : String) : (owners.flatMap fun owner => if owner = identity then told owner else []) =
      if identity ∈ owners then told identity else [] := by
  induction owners with
  | nil => rfl
  | cons owner rest ih =>
    obtain ⟨once, nodup⟩ := List.nodup_cons.mp nodup
    rw [List.flatMap_cons, ih nodup]
    by_cases own : owner = identity
    · subst own
      simp [once]
    · simp [own, Ne.symm own]

theorem messagesFor_map (owner identity : String) (messages : List String) :
    messagesFor ⟨messages.map (Note.mk owner)⟩ identity = if owner = identity then messages else [] := by
  by_cases own : owner = identity <;> simp [messagesFor, List.filter_map, Function.comp_def, own]

/-- Under each identity, the copies stand in the order of the messages. -/
theorem messagesFor_copies (d : Diagnostics) (identity : String) :
    messagesFor ⟨d.copies⟩ identity = d.messagesFor identity := by
  have notes : d.copies = d.groups.flatMap fun entry => (Diagnostics.mk (entry.2.map (Note.mk entry.1))).notes := rfl
  rw [notes, messagesFor_flatMap]
  simp only [messagesFor_map, groups, List.flatMap_map, flatMap_ite (nodup_identities d)]
  split
  · rfl
  · exact (messagesFor_of_not_mem ‹_›).symm

theorem messagesFor_merge (d other : Diagnostics) (identity : String) :
    (d.merge other).messagesFor identity = d.messagesFor identity ++ other.messagesFor identity := by
  rw [merge_eq, messagesFor_extend, messagesFor_copies]

/-- The number of messages is the sum over all identities. -/
theorem size_groups (d : Diagnostics) : Ledger.size d.groups = d.size := by
  have each : ∀ identity, (d.messagesFor identity).length =
      (d.notes.filter fun note => note.identity == identity).length := by
    intro identity
    simp only [messagesFor, List.length_map, beq_eq_decide]
  rw [Ledger.size, groups, List.map_map]
  simp only [Function.comp_def, each]
  exact sum_filter_length_eraseDups Note.identity d.notes

theorem length_copies (d : Diagnostics) : d.copies.length = d.size := by
  rw [← size_groups, copies, List.length_flatMap, Ledger.size]
  simp only [List.length_map]
  rfl

theorem mem_groups {d : Diagnostics} {identity : String} {messages : List String} :
    (identity, messages) ∈ d.groups ↔ messages = d.messagesFor identity ∧ messages ≠ [] := by
  simp only [groups, List.mem_map, Prod.mk.injEq]
  constructor
  · rintro ⟨_, member, rfl, rfl⟩
    exact ⟨rfl, mem_identities.mp member⟩
  · rintro ⟨rfl, some⟩
    exact ⟨identity, mem_identities.mpr some, rfl, rfl⟩

theorem find_groups (d : Diagnostics) (identity : String) : Ledger.find d.groups identity = d.messagesFor identity := by
  rw [groups, Ledger.find_map]
  split
  · rfl
  · exact (messagesFor_of_not_mem ‹_›).symm

theorem isValid_iff (d : Diagnostics) : d.isValid = true ↔ d.size = 0 := by
  simp [isValid, size]

/-- What the ways to read messages have to do with each other. The messages of an identity are those of its entry; an
identity has an entry, and one only, if it has messages; and messages are counted over all entries. -/
structure Coherent (d : Diagnostics) : Prop where
  found : ∀ identity, Ledger.find d.groups identity = d.messagesFor identity
  entries : ∀ identity messages, (identity, messages) ∈ d.groups ↔ messages = d.messagesFor identity ∧ messages ≠ []
  once : (d.groups.map Prod.fst).Nodup
  counted : Ledger.size d.groups = d.size
  valid : d.isValid = true ↔ d.size = 0

theorem coherent (d : Diagnostics) : d.Coherent where
  found := find_groups d
  entries _ _ := mem_groups
  once := by simpa [groups, Function.comp_def] using nodup_identities d
  counted := size_groups d
  valid := isValid_iff d

end Diagnostics

end AccessPolicy
