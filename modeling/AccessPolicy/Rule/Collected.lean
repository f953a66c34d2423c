import AccessPolicy.Rule

namespace AccessPolicy

/-- Rules no two of which are the same. -/
structure RuleSet where
  rules : List Rule
  distinct : rules.Pairwise fun r s => r.same s = false

namespace RuleSet

/-- No rules. -/
def empty : RuleSet := ⟨[], .nil⟩

/-- Whether a set has a rule that is the same as the given one. -/
def contains (s : RuleSet) (r : Rule) : Bool := s.rules.any fun kept => kept.same r

theorem pairwise_concat {rules : List Rule} {r : Rule} (distinct : rules.Pairwise fun r s => r.same s = false)
    (fresh : ¬(rules.any fun kept => kept.same r) = true) :
    (rules ++ [r]).Pairwise fun r s => r.same s = false := by
  refine List.pairwise_append.2 ⟨distinct, List.pairwise_singleton .., fun kept member other single => ?_⟩
  simp only [List.mem_singleton] at single
  simp only [List.any_eq_true, not_exists, not_and, Bool.not_eq_true] at fresh
  rw [single]
  exact fresh kept member

/-- A set with one more rule, unless it is there. -/
def insert (s : RuleSet) (r : Rule) : RuleSet :=
  if fresh : s.contains r then s else ⟨s.rules ++ [r], pairwise_concat s.distinct fresh⟩

/-- A set with more rules. -/
def insertAll (s : RuleSet) (rules : List Rule) : RuleSet := rules.foldl insert s

/-- The set of some rules. -/
def ofList (rules : List Rule) : RuleSet := empty.insertAll rules

/-- The rules of both sets. -/
def union (s t : RuleSet) : RuleSet := s.insertAll t.rules

/-- The rules of several sets. -/
def merge (sets : List RuleSet) : RuleSet := sets.foldl union empty

/-- The rules for one type of resources. -/
def ofType (s : RuleSet) (type : String) : RuleSet :=
  ⟨s.rules.filter fun r => r.resourceType == type, s.distinct.filter _⟩

/-- The rules in the scope of which a request is, if that can be told of all rules. -/
def inScope (s : RuleSet) (request : List Attribute) : Except Pattern.Tangle RuleSet := do
  s.rules.forM fun r => discard (r.environment.includes request)
  let holds := fun (r : Rule) => r.environment.includes request matches .ok true
  return ⟨s.rules.filter holds, s.distinct.filter _⟩

/-- The number of rules. -/
def size (s : RuleSet) : Nat := s.rules.length

/-- Whether two sets have the same rules. -/
def same (s t : RuleSet) : Bool :=
  s.size == t.size && s.rules.all t.contains

/-- The set in short. -/
def text (s : RuleSet) : String := s!"<RuleSet rules={s.size}>"

end RuleSet

end AccessPolicy
