import AccessPolicy.Attribute

namespace AccessPolicy

namespace Attribute

theorem key?_eq_some_iff {base key : String} {a : Attribute} : a.key? base = some key ↔ a.property = base ++ key := by
  unfold key?
  simp only [List.isPrefixOf_iff_prefix]
  constructor
  · intro found
    split at found
    · rename_i inside
      obtain ⟨rest, split⟩ := inside
      obtain rfl := Option.some.inj found
      rw [← String.toList_inj, String.toList_append, String.toList_ofList, ← split, List.drop_left]
    · cases found
  · intro property
    simp [property]

theorem notAfter_iff {a b : Attribute} :
    a.notAfter b = true ↔ a.property < b.property ∨ a.property = b.property ∧ ¬b.value < a.value := by
  rw [notAfter, Bool.or_eq_true, Bool.and_eq_true, decide_eq_true_iff, beq_iff_eq, Bool.not_eq_true',
    decide_eq_false_iff_not]

theorem notAfter_trans (a b c : Attribute) (first : a.notAfter b = true) (second : b.notAfter c = true) :
    a.notAfter c = true := by
  rw [notAfter_iff] at first second ⊢
  rcases first with less | ⟨same, values⟩ <;> rcases second with less' | ⟨same', values'⟩
  · exact Or.inl (String.lt_trans less less')
  · exact Or.inl (same' ▸ less)
  · exact Or.inl (same ▸ less')
  · exact Or.inr ⟨same.trans same', String.not_lt.mpr
      (String.le_trans (String.not_lt.mp values) (String.not_lt.mp values'))⟩

theorem notAfter_total (a b : Attribute) : (a.notAfter b || b.notAfter a) = true := by
  rw [Bool.or_eq_true, notAfter_iff, notAfter_iff]
  rcases Decidable.em (a.property < b.property) with less | notLess
  · exact Or.inl (Or.inl less)
  rcases Decidable.em (b.property < a.property) with less | notLess'
  · exact Or.inr (Or.inl less)
  have same := String.le_antisymm (String.not_lt.mp notLess') (String.not_lt.mp notLess)
  rcases Decidable.em (b.value < a.value) with less | notLess
  · exact Or.inr (Or.inr ⟨same.symm, String.lt_asymm less⟩)
  · exact Or.inl (Or.inr ⟨same, notLess⟩)

theorem notAfter_antisymm {a b : Attribute} (first : a.notAfter b = true) (second : b.notAfter a = true) : a = b := by
  obtain ⟨property, value⟩ := a
  obtain ⟨property', value'⟩ := b
  rw [notAfter_iff] at first second
  rcases first with less | ⟨same, values⟩ <;> rcases second with less' | ⟨same', values'⟩
  · exact absurd less' (String.lt_asymm less)
  · exact absurd same'.symm (String.ne_of_lt less)
  · exact absurd same.symm (String.ne_of_lt less')
  · obtain rfl : property = property' := same
    obtain rfl : value = value' := String.le_antisymm (String.not_lt.mp values) (String.not_lt.mp values')
    rfl

end Attribute

/-- The order of attributes does not show. -/
theorem attributesText_perm {base : String} {attributes others : List Attribute} (perm : attributes.Perm others) :
    attributesText base attributes = attributesText base others := by
  have sorted : ∀ list : List Attribute, (list.mergeSort Attribute.notAfter).Pairwise fun a b => a.notAfter b = true :=
    List.pairwise_mergeSort Attribute.notAfter_trans Attribute.notAfter_total
  have same : attributes.mergeSort Attribute.notAfter = others.mergeSort Attribute.notAfter :=
    List.Perm.eq_of_pairwise (fun _ _ _ _ => Attribute.notAfter_antisymm) (sorted attributes) (sorted others)
      ((List.mergeSort_perm ..).trans (perm.trans (List.mergeSort_perm ..).symm))
  rw [attributesText, same, attributesText]

/-- The length of a joined text does not depend on the order of its parts. -/
theorem length_intercalate_perm {between : String} {parts others : List String} (perm : parts.Perm others) :
    (between.intercalate parts).length = (between.intercalate others).length := by
  induction perm with
  | nil => rfl
  | @cons part parts others perm ih =>
    by_cases none : parts = []
    · obtain rfl := none
      rw [List.nil_perm.mp perm]
    · have some : others ≠ [] := fun none' => none (by rw [none', List.perm_nil] at perm; exact perm)
      simp [String.intercalate_cons_of_ne_nil none, String.intercalate_cons_of_ne_nil some, ih]
  | swap part part' parts =>
    cases parts with
    | nil =>
      simp
      omega
    | cons =>
      simp
      omega
  | trans _ _ first second => exact first.trans second

/-- Attributes that are given again show. -/
theorem attributesText_append_ne {base : String} {attributes again : List Attribute} (some : attributes ≠ [])
    (more : again ≠ []) : attributesText base (attributes ++ again) ≠ attributesText base attributes := by
  have length : ∀ list : List Attribute,
      (attributesText base list).length = (String.intercalate ", " (list.map (Attribute.text base))).length :=
    fun list => length_intercalate_perm ((List.mergeSort_perm ..).map _)
  intro same
  have lengths := congrArg String.length same
  rw [length, length, List.map_append, String.intercalate_append_of_ne_nil (by simpa using some) (by simpa using more)]
    at lengths
  simp only [String.length_append] at lengths
  have comma : ", ".length = 2 := rfl
  omega

end AccessPolicy
