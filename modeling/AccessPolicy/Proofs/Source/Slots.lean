import AccessPolicy.Proofs.Diagnostics
import AccessPolicy.Proofs.Source.Identity

namespace AccessPolicy.Source

/-- Whether more is taken in after a reception. -/
def Reception.continues : Reception → Bool
  | .stop | .abort _ => false
  | _ => true

/-- What a reception puts into its slot. -/
def Reception.slot : Reception → Option Document
  | .document d => some d
  | _ => none

/-- What a reception says. -/
def Reception.messages : Reception → List String
  | .told message => [message]
  | _ => []

/-- What the receptions of outcomes record, the first of which has the given index. -/
def notesFrom (source : String) (index : Nat) : List Outcome → List Note
  | [] => []
  | o :: rest => o.reception.messages.map (Note.mk (itemIdentity source index)) ++ notesFrom source (index + 1) rest

/-- An intake with slots before all others. -/
def Intake.behind (slots : List (Option Document)) (i : Intake) : Intake :=
  { i with slots := slots ++ i.slots }

theorem intakeFrom_cons {source : String} {index : Nat} {d : Diagnostics} {o : Outcome} (rest : List Outcome)
    (continues : o.reception.continues = true) :
    intakeFrom source index d (o :: rest) =
      (intakeFrom source (index + 1)
        (d.extend (o.reception.messages.map (Note.mk (itemIdentity source index)))) rest).after o.reception.slot := by
  rw [intakeFrom]
  cases kind : o.reception with
  | document | silent => simp [Reception.messages, Reception.slot]
  | told => simp [Reception.messages, Reception.slot, Diagnostics.add_some]
  | stop | abort => simp [kind, Reception.continues] at continues

/-- What is taken in first leaves slots and messages behind; what follows is taken in as it would be at its own
index. -/
theorem intakeFrom_append {source : String} {index : Nat} {d : Diagnostics} {outcomes : List Outcome}
    (rest : List Outcome) (continues : ∀ o ∈ outcomes, o.reception.continues = true) :
    intakeFrom source index d (outcomes ++ rest) =
      (intakeFrom source (index + outcomes.length) (d.extend (notesFrom source index outcomes)) rest).behind
        (outcomes.map fun o => o.reception.slot) := by
  induction outcomes generalizing index d with
  | nil => simp [notesFrom, Intake.behind]
  | cons o others ih =>
    have later := @ih (index + 1) (d.extend (o.reception.messages.map (Note.mk (itemIdentity source index))))
      fun p member => continues p (List.mem_cons_of_mem o member)
    rw [List.cons_append, intakeFrom_cons _ (continues o (List.mem_cons_self ..)), later]
    simp only [Intake.after, Intake.behind, notesFrom, Diagnostics.extend_extend, List.map_cons, List.cons_append,
      List.length_cons, Nat.add_assoc, Nat.add_comm 1]

/-- Outcomes none of which ends anything are all taken in. -/
theorem intake_all {source : String} {d : Diagnostics} {outcomes : List Outcome}
    (continues : ∀ o ∈ outcomes, o.reception.continues = true) :
    intake source d outcomes =
      ⟨outcomes.map fun o => o.reception.slot, d.extend (notesFrom source 1 outcomes), none⟩ := by
  have all := @intakeFrom_append source 1 d outcomes [] continues
  rw [List.append_nil] at all
  rw [intake, all]
  simp [intakeFrom, Intake.behind]

/-- An outcome that ends everything leaves what precedes it as it is. -/
theorem intake_abort {source : String} {d : Diagnostics} {before after : List Outcome} {o : Outcome} {t : Trouble}
    (continues : ∀ o ∈ before, o.reception.continues = true) (abort : o.reception = .abort t) :
    intake source d (before ++ o :: after) =
      ⟨before.map fun o => o.reception.slot, d.extend (notesFrom source 1 before), some t⟩ := by
  rw [intake, intakeFrom_append (o :: after) continues]
  simp [intakeFrom, abort, Intake.behind]

theorem mem_notesFrom {source : String} {index : Nat} {outcomes : List Outcome} {note : Note}
    (member : note ∈ notesFrom source index outcomes) :
    ∃ k o, outcomes[k]? = some o ∧ note.identity = itemIdentity source (index + k) ∧
      note.message ∈ o.reception.messages := by
  induction outcomes generalizing index with
  | nil => simp [notesFrom] at member
  | cons o rest ih =>
    rcases List.mem_append.mp member with here | later
    · obtain ⟨message, said, rfl⟩ := List.mem_map.mp here
      exact ⟨0, o, rfl, rfl, said⟩
    · obtain ⟨k, p, atK, identity, said⟩ := ih later
      exact ⟨k + 1, p, by simpa using atK, by rw [identity, Nat.add_assoc, Nat.add_comm 1], said⟩

theorem notesFrom_append (source : String) (index : Nat) (outcomes more : List Outcome) :
    notesFrom source index (outcomes ++ more) =
      notesFrom source index outcomes ++ notesFrom source (index + outcomes.length) more := by
  induction outcomes generalizing index with
  | nil => rfl
  | cons o rest ih =>
    simp only [List.cons_append, notesFrom, ih, List.append_assoc, List.length_cons, Nat.add_assoc, Nat.add_comm 1]

/-- Under the identity of an outcome stands what its own reception says. -/
theorem messagesFor_notesFrom {source : String} {index k : Nat} {outcomes : List Outcome} {o : Outcome}
    (atK : outcomes[k]? = some o) :
    Diagnostics.messagesFor ⟨notesFrom source index outcomes⟩ (itemIdentity source (index + k)) =
      o.reception.messages := by
  induction outcomes generalizing index k with
  | nil => simp at atK
  | cons first rest ih =>
    have split : Diagnostics.messagesFor ⟨notesFrom source index (first :: rest)⟩ (itemIdentity source (index + k)) =
        Diagnostics.messagesFor ⟨first.reception.messages.map (Note.mk (itemIdentity source index))⟩
          (itemIdentity source (index + k)) ++
        Diagnostics.messagesFor ⟨notesFrom source (index + 1) rest⟩ (itemIdentity source (index + k)) :=
      Diagnostics.messagesFor_append _ _ _
    rw [split]
    cases k with
    | zero =>
      obtain rfl : first = o := by simpa using atK
      have later : Diagnostics.messagesFor ⟨notesFrom source (index + 1) rest⟩ (itemIdentity source (index + 0)) =
          [] := by
        refine Diagnostics.messagesFor_eq_nil fun note member same => ?_
        obtain ⟨j, _, _, identity, _⟩ := mem_notesFrom member
        have indices := (itemIdentity_inj (identity.symm.trans same)).2
        omega
      rw [later, List.append_nil]
      simp [Diagnostics.messagesFor, List.filter_map, Function.comp_def]
    | succ j =>
      have here : Diagnostics.messagesFor ⟨first.reception.messages.map (Note.mk (itemIdentity source index))⟩
          (itemIdentity source (index + (j + 1))) = [] := by
        refine Diagnostics.messagesFor_eq_nil fun note member same => ?_
        obtain ⟨message, _, rfl⟩ := List.mem_map.mp member
        have indices := (itemIdentity_inj same).2
        omega
      rw [here, List.nil_append, show index + (j + 1) = index + 1 + j by omega]
      exact ih (by simpa using atK)

/-- What is new under the identity of an outcome is what its own reception says. -/
theorem newMessages_notesFrom {source : String} {k : Nat} {outcomes : List Outcome} {o : Outcome} (prior : Diagnostics)
    (atK : outcomes[k]? = some o) :
    prior.newMessages (prior.extend (notesFrom source 1 outcomes)) (itemIdentity source (k + 1)) =
      o.reception.messages := by
  refine Diagnostics.newMessages_eq ?_
  rw [Diagnostics.messagesFor_extend, Nat.add_comm k 1, messagesFor_notesFrom atK]

/-- Nothing is new under any other identity. -/
theorem exists_slot_of_newMessages {source other : String} {outcomes : List Outcome} {prior : Diagnostics}
    (fresh : prior.newMessages (prior.extend (notesFrom source 1 outcomes)) other ≠ []) :
    ∃ k < outcomes.length, other = itemIdentity source (k + 1) := by
  rw [Diagnostics.newMessages_eq (Diagnostics.messagesFor_extend ..)] at fresh
  obtain ⟨note, member, rfl⟩ := Diagnostics.exists_note_of_messagesFor_ne_nil fresh
  obtain ⟨k, o, atK, same, _⟩ := mem_notesFrom member
  exact ⟨k, (List.getElem?_eq_some_iff.mp atK).1, by rw [same, Nat.add_comm]⟩

end AccessPolicy.Source
