import AccessPolicy.Proofs.Policy.Articles
import AccessPolicy.Proofs.Rule.Building
import AccessPolicy.Proofs.Rule.Restriction

namespace AccessPolicy

/-- What is known of the rule that an article comes to for a principal. -/
structure Rule.Follows (r : Rule) (d : Document) (environment : Environment) (source : String) (principal : Principal)
    (a : Article) : Prop where
  principal : r.principal = principal
  resourceType : r.resourceType = a.type
  source : r.source = a.source source
  description : r.description = d.description
  inclusive : r.inclusive = d.isInclusive
  environment : r.environment = environment
  allow : r.allow.Are a.entry.allow
  deny : r.deny.Are a.entry.deny
  matchers : r.matchers = a.entry.matchers

namespace Article

/-- Why the matchers of an article cannot be frozen. -/
def freezeFault? (a : Article) : Option Value.FreezeFault :=
  match a.entry.matchers.freeze with
  | .ok _ => none
  | .error fault => some fault

/-- The builder of the rule of an article for a principal, with what its grants stand for. -/
def builder (a : Article) (d : Document) (environment : Environment) (source : String) (principal : Principal)
    (allow deny : Actions) : RuleBuilder :=
  { (((d.prototype environment source).withPrincipal principal).extendSource
      ("[type:" ++ a.type ++ "]")).extendSource ("[rule:" ++ toString a.index ++ "]") with
    resourceType := some a.type, allow, deny, matchers := a.entry.matchers }

variable {d : Document} {a : Article} {environment : Environment} {source : String} {principal : Principal}
  {allow deny : Actions}

theorem rule_eq (allowed : Actions.ofGrant? a.entry.allow = some allow)
    (denied : Actions.ofGrant? a.entry.deny = some deny) :
    a.rule d environment source principal =
      (a.builder d environment source principal allow deny).build.mapError .rule := by
  rw [rule, Entry.rule]
  simp only [allowed, denied]
  split
  · rename_i r built
    have same : (a.builder d environment source principal allow deny).build = .ok r := built
    rw [same]
    rfl
  · rename_i fault unbuilt
    have same : (a.builder d environment source principal allow deny).build = .error fault := unbuilt
    rw [same]
    rfl

theorem build_builder : (a.builder d environment source principal allow deny).build =
    (a.builder d environment source principal allow deny).finish principal a.type environment := by
  obtain ⟨kind, name⟩ := principal
  cases kind <;> exact RuleBuilder.build_eq rfl rfl rfl

/-- An article whose matchers can be frozen comes to its rule. -/
theorem exists_rule (allowed : Actions.ofGrant? a.entry.allow = some allow) (areAllowed : allow.Are a.entry.allow)
    (denied : Actions.ofGrant? a.entry.deny = some deny) (areDenied : deny.Are a.entry.deny) {frozen : FrozenMatchers}
    (isFrozen : a.entry.matchers.freeze = .ok frozen) :
    ∃ r, a.rule d environment source principal = .ok r ∧ r.Follows d environment source principal a := by
  have made := @RuleBuilder.finish_of_frozen (a.builder d environment source principal allow deny) none frozen isFrozen
    principal a.type environment
  refine ⟨_, by rw [rule_eq allowed denied, build_builder, made]; rfl, ?_⟩
  obtain ⟨kind, name⟩ := principal
  cases kind <;> exact ⟨rfl, rfl, rfl, rfl, rfl, rfl, areAllowed, areDenied, rfl⟩

theorem rule_of_fault (allowed : Actions.ofGrant? a.entry.allow = some allow)
    (denied : Actions.ofGrant? a.entry.deny = some deny) {fault : Value.FreezeFault}
    (failed : a.entry.matchers.freeze = .error fault) :
    a.rule d environment source principal = .error (.rule (.matchers fault)) := by
  have unmade := @RuleBuilder.finish_of_fault (a.builder d environment source principal allow deny) none fault failed
    principal a.type environment
  rw [rule_eq allowed denied, build_builder, unmade]
  rfl

/-- An article of a valid document comes to its rule or, for want of frozen matchers, to their fault. -/
theorem rule_cases (valid : d.violation? = none) (member : a ∈ d.articles) (environment : Environment)
    (source : String) (principal : Principal) :
    (∃ r, a.freezeFault? = none ∧ a.rule d environment source principal = .ok r ∧
        r.Follows d environment source principal a) ∨
      ∃ fault, a.freezeFault? = some fault ∧
        a.rule d environment source principal = .error (.rule (.matchers fault)) := by
  obtain ⟨⟨allow, allowed, areAllowed⟩, deny, denied, areDenied⟩ := Document.grants_of_valid valid member
  cases freezes : a.entry.matchers.freeze with
  | ok frozen =>
    obtain ⟨r, made, follows⟩ := @exists_rule d a environment source principal allow deny allowed areAllowed denied
      areDenied frozen freezes
    exact Or.inl ⟨r, by simp [freezeFault?, freezes], made, follows⟩
  | error fault => exact Or.inr ⟨fault, by simp [freezeFault?, freezes], rule_of_fault allowed denied freezes⟩

end Article

theorem Rule.eq_of_same {r s : Rule} (same : r.same s = true) : r.principal = s.principal ∧ r.source = s.source := by
  simp only [Rule.same, Bool.and_eq_true, beq_iff_eq] at same
  grind

namespace Document

/-- The first fault of matchers that cannot be frozen. -/
def freezeFault? (d : Document) : Option Value.FreezeFault := d.articles.findSome? Article.freezeFault?

/-- Two articles have different sources. -/
theorem articles_distinct (d : Document) (source : String) :
    d.articles.Pairwise fun a b => a.source source ≠ b.source source := by
  have types : d.entries.Pairwise fun e f => e.1 ≠ f.1 := List.pairwise_map.mp (d.rules.getD .empty).distinct
  rw [articles, List.pairwise_flatMap]
  constructor
  · rintro ⟨type, entries⟩ _
    rw [List.pairwise_map]
    have indices : entries.zipIdx.Pairwise fun e f => e.2 ≠ f.2 := by
      refine List.pairwise_map.mp ?_
      rw [List.zipIdx_map_snd]
      exact List.nodup_range'
    refine indices.imp fun different same => different ?_
    have next := (Article.source_inj same).2
    simpa using next
  · refine types.imp fun different a inE b inF same => different ?_
    obtain ⟨_, _, rfl⟩ := List.mem_map.mp inE
    obtain ⟨_, _, rfl⟩ := List.mem_map.mp inF
    exact (Article.source_inj same).1

/-- No two pairs of a principal and an article are alike in the principal and the source of the article. -/
theorem pairs_distinct (d : Document) (source : String) {principals : List Principal} (nodup : principals.Nodup) :
    (principals ×ˢ d.articles).Pairwise fun s t => ¬(s.1 = t.1 ∧ s.2.source source = t.2.source source) := by
  rw [product_eq, List.pairwise_flatMap]
  constructor
  · intro p _
    rw [List.pairwise_map]
    exact (d.articles_distinct source).imp fun different same => different same.2
  · refine nodup.imp fun different s inP t inQ same => different ?_
    obtain ⟨_, _, rfl⟩ := List.mem_map.mp inP
    obtain ⟨_, _, rfl⟩ := List.mem_map.mp inQ
    exact same.1

/-- Rules of different pairs differ in their principal or their source. -/
theorem rules_distinct {d : Document} {environment : Environment} {source : String} {principals : List Principal}
    {rules : List Rule} (nodup : principals.Nodup)
    (follow : List.Forall₂ (fun (pair : Principal × Article) r => r.Follows d environment source pair.1 pair.2)
      (principals ×ˢ d.articles) rules) :
    rules.Pairwise fun r s => ¬(r.principal = s.principal ∧ r.source = s.source) := by
  refine pairwise_of_forall₂ follow (d.pairs_distinct source nodup) fun first later different same => ?_
  rw [first.principal, later.principal, first.source, later.source] at same
  exact different same

section Expanding

variable {d : Document} {environment : Environment} {source : String} {principals : List Principal}

/-- If all matchers can be frozen, a valid document can be expanded. -/
theorem exists_expand (valid : d.violation? = none) (frozen : d.freezeFault? = none) :
    ∃ set, d.expand environment source principals = .ok set := by
  have each : ∀ pair ∈ principals ×ˢ d.articles, ∃ r, pair.2.rule d environment source pair.1 = .ok r := by
    rintro ⟨p, a⟩ member
    have inArticles : a ∈ d.articles := (List.mem_product.mp member).2
    rcases a.rule_cases valid inArticles environment source p with ⟨r, _, made, _⟩ | ⟨fault, failed, _⟩
    · exact ⟨r, made⟩
    · simp [List.findSome?_eq_none_iff.mp frozen a inArticles] at failed
  obtain ⟨rules, made⟩ := exists_mapM_eq_ok each
  exact ⟨.ofList rules, by rw [expand_eq, made]; rfl⟩

/-- Matchers that cannot be frozen keep a document from being expanded for anybody. -/
theorem expand_of_fault (valid : d.violation? = none) (some : principals ≠ []) {fault : Value.FreezeFault}
    (failed : d.freezeFault? = .some fault) :
    d.expand environment source principals = .error (.rule (.matchers fault)) := by
  obtain ⟨before, a, after, articles, decides, earlier⟩ := List.findSome?_eq_some_iff.mp failed
  obtain ⟨p, others, rfl⟩ := List.exists_cons_of_ne_nil some
  have stopped : a.rule d environment source p = .error (.rule (.matchers fault)) := by
    rcases a.rule_cases valid (by simp [articles]) environment source p with ⟨_, none, _⟩ | ⟨first, here, stopped⟩
    · simp [none] at decides
    · obtain rfl : first = fault := by simpa [here] using decides
      exact stopped
  have passed : ∀ pair ∈ before.map (Prod.mk p), ∃ r, pair.2.rule d environment source pair.1 = .ok r := by
    intro pair member
    obtain ⟨b, inBefore, rfl⟩ := List.mem_map.mp member
    rcases b.rule_cases valid (by simp [articles, inBefore]) environment source p with ⟨r, _, made, _⟩ | ⟨_, here, _⟩
    · exact ⟨r, made⟩
    · simp [earlier b inBefore] at here
  have split : (p :: others) ×ˢ d.articles =
      before.map (Prod.mk p) ++ (p, a) :: (after.map (Prod.mk p) ++ others ×ˢ d.articles) := by
    simp [List.product_cons, articles]
  have tried := mapM_eq_error_iff.mpr ⟨_, _, _, split, passed, stopped⟩
  rw [expand_eq, tried]
  rfl

/-- The rules of a valid document are those of its articles for each principal, and none of them falls together with
another. -/
theorem follows_of_expand {set : RuleSet} (valid : d.violation? = none) (nodup : principals.Nodup)
    (expanded : d.expand environment source principals = .ok set) :
    List.Forall₂ (fun (pair : Principal × Article) r => r.Follows d environment source pair.1 pair.2)
      (principals ×ˢ d.articles) set.rules := by
  rw [expand_eq] at expanded
  cases tried : (principals ×ˢ d.articles).mapM fun (pair : Principal × Article) =>
      pair.2.rule d environment source pair.1 with
  | error fault => simp [tried, Except.map] at expanded
  | ok rules =>
    obtain rfl : RuleSet.ofList rules = set := by simpa [tried, Except.map] using expanded
    have articles : ∀ pair ∈ principals ×ˢ d.articles, pair.2 ∈ d.articles := fun pair member =>
      (List.mem_product.mp member).2
    have follow : List.Forall₂ (fun (pair : Principal × Article) r => r.Follows d environment source pair.1 pair.2)
        (principals ×ˢ d.articles) rules := by
      refine ((List.forall₂_and_left _ _).mpr ⟨articles, mapM_eq_ok_iff.mp tried⟩).imp ?_
      rintro ⟨p, a⟩ r ⟨inArticles, made⟩
      rcases a.rule_cases valid inArticles environment source p with ⟨made', _, isMade, follows⟩ | ⟨_, _, failed⟩
      · obtain rfl : made' = r := Except.ok.inj (isMade.symm.trans made)
        exact follows
      · simp [failed] at made
    have distinct : rules.Pairwise fun r s => r.same s = false :=
      (rules_distinct nodup follow).imp fun different => Bool.eq_false_iff.mpr fun same =>
        different (Rule.eq_of_same same)
    rw [RuleSet.ofList_rules distinct]
    exact follow

end Expanding

end Document

end AccessPolicy
