import AccessPolicy.Proofs.Text.Digits
import AccessPolicy.Source.Intake

namespace AccessPolicy.Source

/-- A mark that is in neither of two endings stands at one place, so what precedes it is the same as well. -/
theorem append_mark_inj {α : Type} {mark : α} {before before' after after' : List α}
    (absent : mark ∉ after) (absent' : mark ∉ after')
    (same : before ++ mark :: after = before' ++ mark :: after') : before = before' ∧ after = after' := by
  rcases List.append_eq_append_iff.mp same with ⟨more, longer, rest⟩ | ⟨more, longer, rest⟩
  · cases more with
    | nil => exact ⟨by simpa using longer.symm, (List.cons.inj rest).2⟩
    | cons first more =>
      have member : mark ∈ after := by
        rw [(List.cons.inj rest).2]
        exact List.mem_append_right more (List.mem_cons_self ..)
      exact absurd member absent
  · cases more with
    | nil => exact ⟨by simpa using longer, (List.cons.inj rest).2.symm⟩
    | cons first more =>
      have member : mark ∈ after' := by
        rw [(List.cons.inj rest).2]
        exact List.mem_append_right more (List.mem_cons_self ..)
      exact absurd member absent'

theorem bracket_not_mem_digits (n : Nat) : '[' ∉ Nat.toDigits 10 n :=
  Text.not_mem_of_digits (fun _ => Text.isDigit_of_mem_toDigits) (by decide)

theorem itemIdentity_toList (source : String) (index : Nat) :
    (itemIdentity source index).toList = source.toList ++ '[' :: (Nat.toDigits 10 index ++ [']']) := by
  simp [itemIdentity]

theorem itemIdentity_inj {source source' : String} {index index' : Nat}
    (same : itemIdentity source index = itemIdentity source' index') : source = source' ∧ index = index' := by
  have texts := congrArg String.toList same
  rw [itemIdentity_toList, itemIdentity_toList] at texts
  have inner : source.toList ++ '[' :: Nat.toDigits 10 index = source'.toList ++ '[' :: Nat.toDigits 10 index' := by
    have texts' : (source.toList ++ '[' :: Nat.toDigits 10 index) ++ [']'] =
        (source'.toList ++ '[' :: Nat.toDigits 10 index') ++ [']'] := by
      simpa only [List.append_assoc, List.cons_append] using texts
    exact List.append_cancel_right texts'
  obtain ⟨sources, digits⟩ :=
    append_mark_inj (bracket_not_mem_digits index) (bracket_not_mem_digits index') inner
  exact ⟨String.toList_injective sources, Text.toDigits_inj digits⟩

end AccessPolicy.Source
