import AccessPolicy.Proofs.Rule.Identity

namespace AccessPolicy

theorem Rule.resourceType_eq_of_same {r s : Rule} (same : r.same s = true) : r.resourceType = s.resourceType := by
  simp only [Rule.same, Bool.and_eq_true, beq_iff_eq] at same
  grind

namespace RuleSet

variable {β : Type}

/-- Whether rules that are the same come to the same. -/
def Respects (f : Rule → β) (rules : List Rule) : Prop :=
  ∀ r ∈ rules, ∀ t ∈ rules, r.same t = true → f r = f t

/-- The rules of a set that have a property. -/
def restrict (s : RuleSet) (p : Rule → Bool) : RuleSet := ⟨s.rules.filter p, s.distinct.filter _⟩

theorem eq_of_rules {s t : RuleSet} (same : s.rules = t.rules) : s = t := by
  cases s
  cases t
  obtain rfl := same
  rfl

theorem Respects.mono {f : Rule → β} {rules fewer : List Rule} (respects : Respects f rules) (part : fewer ⊆ rules) :
    Respects f fewer :=
  fun r inFewer t inFewer' => respects r (part inFewer) t (part inFewer')

theorem Respects.comp {γ : Type} {f : Rule → β} {rules : List Rule} (respects : Respects f rules) (g : β → γ) :
    Respects (fun r => g (f r)) rules :=
  fun r member t member' alike => congrArg g (respects r member t member' alike)

theorem insert_rules (s : RuleSet) (r : Rule) :
    (s.insert r).rules = if s.contains r then s.rules else s.rules ++ [r] := by
  unfold insert
  split <;> rfl

theorem insert_subset (s : RuleSet) (r : Rule) (rest : List Rule) :
    (s.insert r).rules ++ rest ⊆ s.rules ++ r :: rest := by
  intro t member
  rcases List.mem_append.mp member with inInsert | inRest
  · rcases mem_of_mem_insert inInsert with old | rfl
    · exact List.mem_append_left _ old
    · simp
  · exact List.mem_append_right _ (List.mem_cons_of_mem r inRest)

theorem insertAll_subset (s : RuleSet) (rules : List Rule) : (s.insertAll rules).rules ⊆ s.rules ++ rules :=
  fun _ member => List.mem_append.mpr (mem_of_mem_insertAll member)

/-- Rules that are all new stay, in their order. -/
theorem insertAll_rules {s : RuleSet} {rules : List Rule}
    (fresh : (s.rules ++ rules).Pairwise fun r t => r.same t = false) :
    (s.insertAll rules).rules = s.rules ++ rules := by
  induction rules generalizing s with
  | nil => simp [insertAll]
  | cons r rest ih =>
    have unknown : s.contains r = false := by
      simp only [contains, List.any_eq_false, Bool.not_eq_true]
      exact fun kept member => (List.pairwise_append.mp fresh).2.2 kept member r (List.mem_cons_self ..)
    have added : (s.insert r).rules = s.rules ++ [r] := by simp [insert, unknown]
    have rest := @ih (s.insert r) (by rw [added, List.append_assoc]; exact fresh)
    rw [added, List.append_assoc] at rest
    exact rest

theorem ofList_rules {rules : List Rule} (distinct : rules.Pairwise fun r t => r.same t = false) :
    (ofList rules).rules = rules :=
  @insertAll_rules empty rules distinct

section Picking

variable {s : RuleSet} {p : Rule → Bool}

theorem contains_restrict {r : Rule} (respects : Respects p (s.rules ++ [r])) (holds : p r = true) :
    (s.restrict p).contains r = s.contains r := by
  rw [contains, contains, restrict, List.any_filter, Bool.eq_iff_iff, List.any_eq_true, List.any_eq_true]
  constructor
  · rintro ⟨kept, member, both⟩
    exact ⟨kept, member, (Bool.and_eq_true_iff.mp both).2⟩
  · rintro ⟨kept, member, alike⟩
    have keeps := respects kept (List.mem_append_left _ member) r (by simp) alike
    exact ⟨kept, member, Bool.and_eq_true_iff.mpr ⟨keeps.trans holds, alike⟩⟩

theorem restrict_insert {r : Rule} (respects : Respects p (s.rules ++ [r])) :
    (s.insert r).restrict p = if p r then (s.restrict p).insert r else s.restrict p := by
  refine eq_of_rules ?_
  have picked : ((s.insert r).restrict p).rules = (s.insert r).rules.filter p := rfl
  have before : (s.restrict p).rules = s.rules.filter p := rfl
  by_cases holds : p r = true
  · rw [if_pos holds, insert_rules, contains_restrict respects holds, picked, insert_rules, before]
    split
    · rfl
    · rw [List.filter_append, List.filter_cons_of_pos holds, List.filter_nil]
  · rw [if_neg holds, picked, insert_rules, before]
    split
    · rfl
    · rw [List.filter_append, List.filter_cons_of_neg holds, List.filter_nil, List.append_nil]

theorem restrict_insertAll {rules : List Rule} (respects : Respects p (s.rules ++ rules)) :
    (s.insertAll rules).restrict p = (s.restrict p).insertAll (rules.filter p) := by
  induction rules generalizing s with
  | nil => rfl
  | cons r rest ih =>
    have first : Respects p (s.rules ++ [r]) := respects.mono fun t member => by simp at member ⊢; tauto
    have later := @ih (s.insert r) (respects.mono (insert_subset s r rest))
    rw [restrict_insert first] at later
    refine Eq.trans (show _ = ((s.insert r).insertAll rest).restrict p from rfl) (later.trans ?_)
    by_cases holds : p r = true
    · rw [if_pos holds, List.filter_cons_of_pos holds]
      rfl
    · rw [if_neg holds, List.filter_cons_of_neg holds]

end Picking

theorem findSome?_insert {s : RuleSet} {r : Rule} {f : Rule → Option β} (respects : Respects f (s.rules ++ [r])) :
    (s.insert r).rules.findSome? f = (s.rules ++ [r]).findSome? f := by
  rw [insert_rules]
  split
  · rename_i old
    obtain ⟨kept, member, alike⟩ := List.any_eq_true.mp old
    have same := respects kept (List.mem_append_left _ member) r (by simp) alike
    rw [List.findSome?_append]
    cases found : s.rules.findSome? f with
    | some b => rfl
    | none =>
      have none := List.findSome?_eq_none_iff.mp found kept member
      simp [← same, none]
  · rfl

/-- The first that a set made of rules comes to is the first that the rules come to. -/
theorem findSome?_insertAll {s : RuleSet} {rules : List Rule} {f : Rule → Option β}
    (respects : Respects f (s.rules ++ rules)) :
    (s.insertAll rules).rules.findSome? f = (s.rules ++ rules).findSome? f := by
  induction rules generalizing s with
  | nil => simp [insertAll]
  | cons r rest ih =>
    have first : Respects f (s.rules ++ [r]) := respects.mono fun t member => by simp at member ⊢; tauto
    have later := @ih (s.insert r) (respects.mono (insert_subset s r rest))
    rw [List.findSome?_append, findSome?_insert first, ← List.findSome?_append] at later
    simpa [insertAll] using later

end RuleSet

end AccessPolicy
