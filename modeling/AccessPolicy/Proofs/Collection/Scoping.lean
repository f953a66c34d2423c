import AccessPolicy.Proofs.Collection.Provenance
import AccessPolicy.Proofs.Environment.Scope
import AccessPolicy.Proofs.Rule.Restriction

namespace AccessPolicy

namespace Environment

variable {e f : Environment}

theorem criterion_eq_of_same (alike : e.same f = true) : e.criterion = f.criterion := by
  simp only [same, Bool.and_eq_true, beq_iff_eq] at alike
  obtain ⟨⟨_, value⟩, kind⟩ := alike
  unfold Environment.value at value
  cases first : e.criterion with
  | literal v =>
    cases second : f.criterion with
    | literal w =>
      rw [first, second] at value
      exact congrArg Criterion.literal value
    | pattern q => simp [first, second, Criterion.isPattern] at kind
  | pattern p =>
    cases second : f.criterion with
    | literal w => simp [first, second, Criterion.isPattern] at kind
    | pattern q =>
      rw [first, second] at value
      have source : p.source = q.source := value
      have read := Pattern.ofText_source p
      rw [source, Pattern.ofText_source q] at read
      exact congrArg Criterion.pattern (Except.ok.inj read).symm

theorem key_eq_of_same (alike : e.same f = true) : e.key = f.key := by
  simp only [same, Bool.and_eq_true, beq_iff_eq] at alike
  exact alike.1.1

/-- Scopes that count as the same and have one namespace are one. -/
theorem eq_of_same (alike : e.same f = true) (base : e.base = f.base) : e = f := by
  have key := key_eq_of_same alike
  have criterion := criterion_eq_of_same alike
  cases e
  cases f
  simp_all

theorem includes_of_refuses (refuses : ∀ value, e.criterion.accepts value = .ok false) (request : List Attribute) :
    e.includes request = .ok false := by
  rw [includes_eq refuses request]
  exact congrArg Except.ok (List.any_eq_false.mpr fun a _ => by simp)

theorem includes_singleton (value : String) : e.includes [⟨e.uri, value⟩] = e.criterion.accepts value := by
  rw [includes_cons, if_pos rfl]
  cases e.criterion.accepts value with
  | error tangle => rfl
  | ok accepted => cases accepted <;> rfl

/-- Scopes that count as the same include the same requests exactly if they have one namespace, unless no value at all
meets them. -/
theorem includes_eq_iff_of_same (alike : e.same f = true) :
    (∀ request, e.includes request = f.includes request) ↔
      e.base = f.base ∨ ∀ value, e.criterion.accepts value = .ok false := by
  constructor
  · intro agree
    by_cases base : e.base = f.base
    · exact Or.inl base
    · refine Or.inr fun value => ?_
      have foreign : e.uri ≠ f.uri := by
        rw [uri, uri, key_eq_of_same alike]
        exact fun same => base ((String.append_left_inj f.key).mp same)
      have told := agree [⟨e.uri, value⟩]
      rw [includes_singleton, includes_cons, if_neg foreign] at told
      exact told
  · rintro (base | refuses) request
    · rw [eq_of_same alike base]
    · rw [includes_of_refuses refuses, includes_of_refuses (criterion_eq_of_same alike ▸ refuses)]

theorem base_of_resolve {pinned : Option (List Attribute)} {base : String} {d : Document}
    (resolved : resolve pinned base d = .ok e) : e.base = base := by
  cases pinned with
  | some attributes =>
    obtain ⟨_, _, _, made⟩ := exists_last (resolve_pinned resolved)
    exact (ofPair_eq_ok made).2.1
  | none =>
    unfold resolve at resolved
    cases scope : d.scope with
    | none => simp [scope] at resolved
    | some declared =>
      simp only [scope, ofDeclared] at resolved
      split at resolved
      · exact (ofPattern_eq_ok resolved).2.1
      · exact (ofPattern_eq_ok resolved).2.1
      · cases resolved

end Environment

namespace RuleSet

/-- Whether those of some rules that are the same are from one namespace. -/
def Coherent (rules : List Rule) : Prop := Respects (fun r => r.environment.base) rules

theorem sameEnvironment_of_same {r t : Rule} (alike : r.same t = true) :
    r.environment.same t.environment = true := by
  simp only [Rule.same, Bool.and_eq_true] at alike
  grind

theorem Coherent.respects {rules : List Rule} (coherent : Coherent rules) (request : List Attribute) :
    Respects (fun r => r.environment.includes request) rules := by
  intro r member t member' alike
  have one := Environment.eq_of_same (sameEnvironment_of_same alike) (coherent r member t member' alike)
  exact congrArg (Environment.includes · request) one

theorem inScope_eq (s : RuleSet) (request : List Attribute) :
    s.inScope request = (s.rules.findSome? fun r => fault? (r.environment.includes request)).elim
      (.ok (s.restrict fun r => isYes (r.environment.includes request))) .error := by
  rw [inScope, forM_discard]
  cases s.rules.findSome? fun r => fault? (r.environment.includes request) with
  | some tangle => rfl
  | none =>
    refine congrArg Except.ok (eq_of_rules (List.filter_congr fun r _ => ?_))
    cases r.environment.includes request with
    | error tangle => rfl
    | ok answer => cases answer <;> rfl

theorem filterM_rules (s : RuleSet) (request : List Attribute) :
    (s.rules.filterM fun (r : Rule) => r.environment.includes request) = (s.inScope request).map RuleSet.rules := by
  rw [inScope_eq, filterM_eq]
  cases s.rules.findSome? fun r => fault? (r.environment.includes request) <;> rfl

/-- To put rules into a set and then look for those in scope is to look first. -/
theorem inScope_insertAll {s : RuleSet} {rules : List Rule} (coherent : Coherent (s.rules ++ rules))
    (request : List Attribute) :
    (s.insertAll rules).inScope request = (do
      let covered ← s.inScope request
      let more ← rules.filterM fun (r : Rule) => r.environment.includes request
      return covered.insertAll more) := by
  have respects := coherent.respects request
  rw [inScope_eq, inScope_eq, filterM_eq, findSome?_insertAll (respects.comp fault?),
    restrict_insertAll (respects.comp isYes), List.findSome?_append]
  cases s.rules.findSome? fun r => fault? (r.environment.includes request) with
  | some tangle => rfl
  | none => cases rules.findSome? fun r => fault? (r.environment.includes request) <;> rfl

theorem inScope_ofList {rules : List Rule} (coherent : Coherent rules) (request : List Attribute) :
    (ofList rules).inScope request = (rules.filterM fun (r : Rule) => r.environment.includes request).map ofList := by
  rw [ofList, inScope_insertAll (by simpa [empty] using coherent)]
  cases rules.filterM fun (r : Rule) => r.environment.includes request <;> rfl

theorem inScope_union {s t : RuleSet} (coherent : Coherent (s.rules ++ t.rules)) (request : List Attribute) :
    (s.union t).inScope request = (do return (← s.inScope request).union (← t.inScope request)) := by
  rw [union, inScope_insertAll coherent, filterM_rules]
  cases s.inScope request with
  | error tangle => rfl
  | ok covered => cases t.inScope request <;> rfl

theorem inScope_foldl_union {s : RuleSet} {sets : List RuleSet}
    (coherent : Coherent (s.rules ++ sets.flatMap RuleSet.rules)) (request : List Attribute) :
    (sets.foldl union s).inScope request = (do
      let covered ← s.inScope request
      return (← sets.mapM fun (t : RuleSet) => t.inScope request).foldl union covered) := by
  induction sets generalizing s with
  | nil =>
    rw [List.foldl_nil]
    cases s.inScope request <;> rfl
  | cons t rest ih =>
    rw [List.flatMap_cons, ← List.append_assoc] at coherent
    have first : Coherent (s.rules ++ t.rules) := Respects.mono coherent (List.subset_append_left ..)
    have later : Coherent ((s.union t).rules ++ rest.flatMap RuleSet.rules) :=
      Respects.mono coherent (List.append_subset.mpr ⟨List.Subset.trans (insertAll_subset s t.rules)
        (List.subset_append_left ..), List.subset_append_right ..⟩)
    rw [List.foldl_cons, ih later, inScope_union first, List.mapM_cons]
    cases s.inScope request with
    | error tangle => rfl
    | ok covered =>
      cases t.inScope request with
      | error tangle => rfl
      | ok more => cases rest.mapM fun t => t.inScope request <;> rfl

theorem inScope_merge {sets : List RuleSet} (coherent : Coherent (sets.flatMap RuleSet.rules))
    (request : List Attribute) :
    (merge sets).inScope request = (sets.mapM fun (s : RuleSet) => s.inScope request).map merge := by
  rw [merge, inScope_foldl_union (by simpa [empty] using coherent)]
  cases sets.mapM fun s => s.inScope request <;> rfl

end RuleSet

namespace Collection

variable {sources : List Source} {pinned : Option (List Attribute)} {prior : Diagnostics} {c : Collection}

theorem Loaded.coherent {workers : Int} (loaded : Loaded sources pinned prior workers c) :
    RuleSet.Coherent ((c.policies.map Policy.rules).flatMap RuleSet.rules) := by
  have standard : ∀ r ∈ (c.policies.map Policy.rules).flatMap RuleSet.rules,
      r.environment.base = Attribute.standardBase := by
    intro r member
    obtain ⟨_, inSets, inRules⟩ := List.mem_flatMap.mp member
    obtain ⟨policy, inPolicies, rfl⟩ := List.mem_map.mp inSets
    obtain ⟨p, _, d, _, made⟩ := loaded.place_of_policy inPolicies
    obtain ⟨_, _, _, follows⟩ := made.exists_follows inRules
    rw [follows.environment]
    exact Environment.base_of_resolve made.resolved
  intro r member t member' _
  exact (standard r member).trans (standard t member').symm

theorem Loaded.inScope_rules {workers : Int} (loaded : Loaded sources pinned prior workers c)
    (request : List Attribute) :
    c.rules.inScope request = (c.policies.mapM fun (p : Policy) => p.rules.inScope request).map RuleSet.merge := by
  rw [loaded.shares.2, RuleSet.inScope_merge loaded.coherent, List.mapM_map]
  rfl

end Collection

/-- Scopes that count as the same include the same requests exactly if they have one namespace, unless nothing meets
them. Where rules that are the same are from one namespace, they are in scope alike, whichever of them a set keeps; so to
look for the rules in scope after rules have been put into a set, sets have been united or several have been merged is to
look before. All this holds of every collection. -/
theorem scoped_alike :
    (∀ e f : Environment, e.same f = true → ((∀ request, e.includes request = f.includes request) ↔
      e.base = f.base ∨ ∀ value, e.criterion.accepts value = .ok false)) ∧
    (∀ rules, RuleSet.Coherent rules → ∀ request,
      (∀ r ∈ rules, ∀ t ∈ rules, r.same t = true → r.environment.includes request = t.environment.includes request) ∧
      ∀ order, order.Perm rules →
        (RuleSet.ofList order).inScope request =
          (order.filterM fun (r : Rule) => r.environment.includes request).map RuleSet.ofList ∧
        ∀ r ∈ rules, ∃ kept ∈ (RuleSet.ofList order).rules, kept.same r = true ∧
          kept.environment.includes request = r.environment.includes request) ∧
    (∀ s t : RuleSet, RuleSet.Coherent (s.rules ++ t.rules) → ∀ request,
      (s.union t).inScope request = (do return (← s.inScope request).union (← t.inScope request))) ∧
    (∀ sets : List RuleSet, RuleSet.Coherent (sets.flatMap RuleSet.rules) → ∀ request,
      (RuleSet.merge sets).inScope request =
        (sets.mapM fun (s : RuleSet) => s.inScope request).map RuleSet.merge) ∧
    ∀ sources pinned prior workers c, Collection.Loaded sources pinned prior workers c → ∀ request,
      c.rules.inScope request = (c.policies.mapM fun (p : Policy) => p.rules.inScope request).map RuleSet.merge := by
  refine ⟨fun e f => Environment.includes_eq_iff_of_same, fun rules coherent request => ?_,
    fun s t => RuleSet.inScope_union, fun sets => RuleSet.inScope_merge,
    fun sources pinned prior workers c loaded => loaded.inScope_rules⟩
  have respects := coherent.respects request
  refine ⟨respects, fun order perm => ⟨RuleSet.inScope_ofList (RuleSet.Respects.mono coherent perm.subset) request, ?_⟩⟩
  intro r member
  obtain ⟨kept, inSet, alike⟩ := RuleSet.exists_same_of_insertAll (s := .empty) (perm.mem_iff.mpr member)
  have known : kept ∈ rules := perm.subset (by simpa [RuleSet.empty] using RuleSet.insertAll_subset .empty order inSet)
  exact ⟨kept, inSet, alike, respects kept known r member alike⟩

/-- Rules that are the same but are not alike to look at, in either order and in one collection each. -/
theorem permuted_scoped_alike :
    listedRule.same permutedRule = true ∧ RuleSet.Coherent [listedRule, permutedRule] ∧
      ([permutedRule, listedRule].Perm [listedRule, permutedRule]) ∧
      (∀ request, listedRule.environment.includes request = permutedRule.environment.includes request) ∧
      (∀ request, ∃ kept ∈ (RuleSet.ofList [permutedRule, listedRule]).rules, kept.same listedRule = true ∧
        kept.environment.includes request = listedRule.environment.includes request) ∧
      (∀ request, ((RuleSet.ofList [listedRule]).union (.ofList [permutedRule])).inScope request = (do
        let first ← (RuleSet.ofList [listedRule]).inScope request
        return first.union (← (RuleSet.ofList [permutedRule]).inScope request))) ∧
      (∀ request, (RuleSet.merge [.ofList [listedRule], .ofList [permutedRule]]).inScope request =
        ([RuleSet.ofList [listedRule], .ofList [permutedRule]].mapM fun (s : RuleSet) =>
          s.inScope request).map RuleSet.merge) ∧
      ∃ c, Collection.Loaded [Collection.excluding] (some [.ofKey "project" "ops"]) .empty 4 c ∧ c.rules.size = 1 ∧
        ∀ request,
          c.rules.inScope request = (c.policies.mapM fun (p : Policy) => p.rules.inScope request).map RuleSet.merge := by
  have agree : listedRule.Agrees permutedRule := propertyRule_agrees ..
  have alike : listedRule.same permutedRule = true := (Rule.same_iff_of_agrees agree).mpr (by decide +kernel)
  have single : ∀ r : Rule, (RuleSet.ofList [r]).rules = [r] := fun r => rfl
  have coherent : RuleSet.Coherent [listedRule, permutedRule] := by
    intro r member t member' _
    rcases List.mem_pair.mp member with rfl | rfl <;> rcases List.mem_pair.mp member' with rfl | rfl <;> rfl
  have perm : [permutedRule, listedRule].Perm [listedRule, permutedRule] := .swap ..
  obtain ⟨scopes, sets, united, merged, loading⟩ := scoped_alike
  refine ⟨alike, coherent, perm, ?_, fun request => ?_, united _ _ coherent, merged _ coherent, ?_⟩
  · exact (scopes _ _ (RuleSet.sameEnvironment_of_same alike)).mpr (Or.inl rfl)
  · exact ((sets _ coherent request).2 _ perm).2 listedRule (by simp)
  · let pinned := some [Attribute.ofKey "project" "ops"]
    have one : ((Collection.ofSources [Collection.excluding] pinned .empty).map fun c => c.rules.size).toOption =
        some 1 := by decide +kernel
    cases made : Collection.ofSources [Collection.excluding] pinned .empty with
    | error fault => simp [made, Except.map, Except.toOption] at one
    | ok c =>
      have loaded : Collection.Loaded [Collection.excluding] pinned .empty 4 c := .inTurn (Or.inr (by decide)) made
      exact ⟨c, loaded, by simpa [made, Except.map, Except.toOption] using one, loading _ _ _ _ _ loaded⟩

/-- A rule for the operators of a namespace. -/
def operatorsRule (base : String) : Rule where
  resourceType := "job"
  environment := ⟨"project", base, .literal "ops"⟩
  source := "s[type:job][rule:1]"
  description := some "d"
  inclusive := true
  principal := ⟨.username, "u"⟩
  allow := [.text "read"]
  deny := []
  matchers := ⟨none, none, none, none⟩
  frozen := ⟨none, none, none, none⟩
  isFrozen := rfl

/-- Rules that are the same although a request is in scope of one only, and which is left out of the set of both. -/
theorem namespaces_fall_together :
    (operatorsRule "urn:a/").same (operatorsRule "urn:b/") = true ∧
      (operatorsRule "urn:a/").environment.same (operatorsRule "urn:b/").environment = true ∧
      (operatorsRule "urn:a/").environment.includes [⟨"urn:b/project", "ops"⟩] = .ok false ∧
      (operatorsRule "urn:b/").environment.includes [⟨"urn:b/project", "ops"⟩] = .ok true ∧
      (RuleSet.ofList [operatorsRule "urn:a/", operatorsRule "urn:b/"]).rules = [operatorsRule "urn:a/"] := by
  have alike : (operatorsRule "urn:a/").same (operatorsRule "urn:b/") = true := by decide +kernel
  refine ⟨alike, by decide +kernel, by decide +kernel, by decide +kernel, ?_⟩
  simp [RuleSet.ofList, RuleSet.insertAll, RuleSet.insert, RuleSet.contains, RuleSet.empty, alike]

end AccessPolicy
