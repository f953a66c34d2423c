import Mathlib.Data.List.Nodup

namespace AccessPolicy

variable {α : Type} [BEq α] [LawfulBEq α]

theorem nodup_eraseDups {items : List α} : items.eraseDups.Nodup := by
  induction length : items.length using Nat.strongRecOn generalizing items with
  | ind n ih =>
    cases items with
    | nil => simp
    | cons first rest =>
      have shorter := List.length_filter_le (fun item => !item == first) rest
      rw [List.length_cons] at length
      rw [List.eraseDups_cons]
      refine List.nodup_cons.mpr ⟨?_, ih _ (by omega) rfl⟩
      simp

theorem eraseDups_of_nodup {items : List α} (nodup : items.Nodup) : items.eraseDups = items := by
  induction items with
  | nil => rfl
  | cons first rest ih =>
    obtain ⟨new, nodup⟩ := List.nodup_cons.mp nodup
    have others : rest.filter (fun item => !item == first) = rest := by
      refine List.filter_eq_self.mpr fun item member => ?_
      have unlike : item ≠ first := fun same => new (same ▸ member)
      simpa using unlike
    rw [List.eraseDups_cons, others, ih nodup]

theorem eraseDups_concat (items : List α) (item : α) :
    (items ++ [item]).eraseDups = if item ∈ items then items.eraseDups else items.eraseDups ++ [item] := by
  rw [List.eraseDups_append, List.removeAll, List.filter_singleton]
  by_cases old : item ∈ items <;> simp [old, List.eraseDups_cons]

theorem eraseDups_perm {items others : List α} (same : ∀ item, item ∈ items ↔ item ∈ others) :
    items.eraseDups.Perm others.eraseDups :=
  (List.perm_ext_iff_of_nodup nodup_eraseDups nodup_eraseDups).mpr fun item => by
    rw [List.mem_eraseDups, List.mem_eraseDups, same]

section Counting

variable {β : Type}

theorem length_filter_add {p q : β → Bool} {items : List β} (apart : ∀ item ∈ items, p item = true → ¬q item = true) :
    (items.filter p).length + (items.filter q).length = (items.filter fun item => p item || q item).length := by
  induction items with
  | nil => rfl
  | cons item rest ih =>
    rw [List.forall_mem_cons] at apart
    have rest := ih apart.2
    have first := apart.1
    cases holds : p item <;> cases holds' : q item <;> simp [holds, holds'] at first ⊢ <;> omega

/-- The items of one of several distinct kinds are as many as those of each kind together. -/
theorem sum_filter_length {kinds : List α} (nodup : kinds.Nodup) (kind : β → α) (items : List β) :
    (kinds.map fun k => (items.filter fun item => kind item == k).length).foldr (· + ·) 0 =
      (items.filter fun item => kinds.contains (kind item)).length := by
  induction kinds with
  | nil => simp
  | cons k rest ih =>
    obtain ⟨new, nodup⟩ := List.nodup_cons.mp nodup
    have apart : ∀ item ∈ items, (kind item == k) = true → ¬(rest.contains (kind item)) = true := by
      intro item _ first among
      rw [beq_iff_eq.mp first] at among
      exact new (List.contains_iff_mem.mp among)
    rw [List.map_cons, List.foldr_cons, ih nodup, length_filter_add apart]
    simp only [List.contains_cons]

theorem sum_filter_length_eraseDups (kind : β → α) (items : List β) :
    ((items.map kind).eraseDups.map fun k => (items.filter fun item => kind item == k).length).foldr (· + ·) 0 =
      items.length := by
  refine (sum_filter_length nodup_eraseDups kind items).trans (congrArg List.length (List.filter_eq_self.mpr ?_))
  intro item member
  rw [List.contains_iff_mem, List.mem_eraseDups]
  exact List.mem_map_of_mem member

end Counting

end AccessPolicy
