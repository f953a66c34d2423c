import AccessPolicy.Proofs.Collection.Provenance
import AccessPolicy.Proofs.Rule.Restriction

namespace AccessPolicy

/-- No rule from one source is the same as a rule from another. -/
theorem Policy.MadeFrom.rules_apart {p q : Policy} {d e : Document} {first second : String} {index index' : Int}
    {pinned pinned' : Option (List Attribute)} (made : p.MadeFrom d first index pinned)
    (made' : q.MadeFrom e second index' pinned') (different : first ≠ second) :
    ∀ r ∈ p.rules.rules, ∀ s ∈ q.rules.rules, r.same s = false := by
  intro r inP s inQ
  obtain ⟨_, a, _, follows⟩ := made.exists_follows inP
  obtain ⟨_, b, _, follows'⟩ := made'.exists_follows inQ
  refine Bool.eq_false_iff.mpr fun same => different (Article.eq_of_source (a := a) (b := b) ?_ ?_)
  · rw [← follows.resourceType, ← follows'.resourceType, Rule.resourceType_eq_of_same same]
  · rw [← follows.source, ← follows'.source, (Rule.eq_of_same same).2]

namespace RuleSet

/-- Sets no rule of one of which is the same as a rule of another. -/
def Apart (s t : RuleSet) : Prop := ∀ r ∈ s.rules, ∀ r' ∈ t.rules, r.same r' = false

theorem union_rules {s t : RuleSet} (apart : s.Apart t) : (s.union t).rules = s.rules ++ t.rules :=
  insertAll_rules (List.pairwise_append.mpr ⟨s.distinct, t.distinct, apart⟩)

/-- Sets that are pairwise apart keep all their rules when they are merged. -/
theorem merge_rules {sets : List RuleSet} (apart : sets.Pairwise Apart) :
    (merge sets).rules = sets.flatMap RuleSet.rules := by
  have grown : ∀ s : RuleSet, (s :: sets).Pairwise Apart →
      (sets.foldl union s).rules = s.rules ++ sets.flatMap RuleSet.rules := by
    clear apart
    intro s apart
    induction sets generalizing s with
    | nil => simp
    | cons first rest ih =>
      obtain ⟨fromS, fromFirst, later⟩ : s.Apart first ∧ (∀ t ∈ rest, s.Apart t) ∧ (first :: rest).Pairwise Apart := by
        simpa [and_assoc] using List.pairwise_cons.mp apart
      have joined := union_rules fromS
      have both : (s.union first :: rest).Pairwise Apart := by
        refine List.pairwise_cons.mpr ⟨fun t inRest r member r' inT => ?_, (List.pairwise_cons.mp later).2⟩
        rw [joined, List.mem_append] at member
        rcases member with inS | inFirst
        · exact fromFirst t inRest r inS r' inT
        · exact (List.pairwise_cons.mp later).1 t inRest r inFirst r' inT
      rw [List.foldl_cons, ih _ both, joined, List.flatMap_cons, List.append_assoc]
  have alone : (empty :: sets).Pairwise Apart := List.pairwise_cons.mpr ⟨fun t _ r none => (by cases none), apart⟩
  simpa [merge, empty] using grown empty alone

end RuleSet

namespace Collection

variable {sources : List Source} {pinned : Option (List Attribute)} {prior : Diagnostics} {c : Collection}

theorem Place.Compiles.rules_apart {p q : Place} {pinned pinned' : Option (List Attribute)} {policy other : Policy}
    (different : p.source ≠ q.source ∨ p.index ≠ q.index) (compiles : p.Compiles pinned policy)
    (compiles' : q.Compiles pinned' other) : policy.rules.Apart other.rules := by
  obtain ⟨d, _, made⟩ := compiles
  obtain ⟨e, _, made'⟩ := compiles'
  refine made.rules_apart made' fun same => ?_
  obtain ⟨sources, indices⟩ := Source.itemIdentity_inj same
  exact different.elim (fun unlike => unlike sources) fun unlike => unlike indices

/-- The policies that a source brings bear the identities of its places, in their order. -/
theorem keys_of_takeSource {s : Source} {gain : Progress} (brought : Progress.takeSource pinned .nothing s = .ok gain) :
    (gain.policies.map Policy.source).Sublist ((places s).map Place.identity) := by
  cases opened : s.outcomes with
  | error fault => simp [policies_of_unopened opened brought]
  | ok outcomes =>
    obtain ⟨rfl, each⟩ := takeSource_eq_share opened brought
    rw [share, Progress.total, List.flatMap_map]
    exact sublist_flatMap_of_singletons fun p member => (each p member).2.source_sublist

/-- No two policies of a collection are from one place, unless two sources have one identity. -/
theorem Loaded.policies_distinct {workers : Int} (loaded : Loaded sources pinned prior workers c)
    (distinct : (sources.map Source.identity).Nodup) : (c.policies.map Policy.source).Nodup := by
  obtain ⟨⟨shares, brought, policies⟩, _⟩ := loaded.shares
  have each : ((shares.flatMap Progress.policies).map Policy.source).Sublist
      ((sources.flatMap places).map Place.identity) := by
    have taken := mapM_eq_ok_iff.mp brought
    clear brought policies loaded distinct
    induction taken with
    | nil => exact .slnil
    | cons first _ ih =>
      rw [List.flatMap_cons, List.flatMap_cons, List.map_append, List.map_append]
      exact (keys_of_takeSource first).append ih
  rw [policies]
  exact each.nodup (List.pairwise_map.mpr (places_distinct distinct))

/-- A collection has all rules of its policies, policy by policy. -/
theorem Loaded.merged_rules {workers : Int} (loaded : Loaded sources pinned prior workers c)
    (distinct : (sources.map Source.identity).Nodup) :
    c.rules.rules = c.policies.flatMap fun policy => policy.rules.rules := by
  have apart : (c.policies.map Policy.rules).Pairwise RuleSet.Apart := by
    refine List.pairwise_map.mpr
      ((List.pairwise_map.mp (loaded.policies_distinct distinct)).imp_of_mem fun inC inC' different => ?_)
    obtain ⟨p, _, d, _, made⟩ := loaded.place_of_policy inC
    obtain ⟨q, _, e, _, made'⟩ := loaded.place_of_policy inC'
    refine made.rules_apart made' ?_
    rw [← made.source, ← made'.source]
    exact different
  rw [loaded.shares.2, RuleSet.merge_rules apart, List.flatMap_map]

/-- Documents at different places come to different rules, whatever the documents are, so a collection of sources with
different identities has all rules of all its policies. -/
theorem Loaded.keeps_all_rules {workers : Int} (loaded : Loaded sources pinned prior workers c)
    (distinct : (sources.map Source.identity).Nodup) :
    c.rules.size = (c.policies.map fun policy => policy.rules.size).foldr (· + ·) 0 ∧
      c.rules.rules = c.policies.flatMap (fun policy => policy.rules.rules) ∧
      ∀ (p q : Place) (pinned pinned' : Option (List Attribute)) (policy other : Policy),
        p.source ≠ q.source ∨ p.index ≠ q.index → p.Compiles pinned policy → q.Compiles pinned' other →
          policy.rules.Apart other.rules := by
  have rules := loaded.merged_rules distinct
  refine ⟨?_, rules, fun p q pinned pinned' policy other => Place.Compiles.rules_apart⟩
  rw [RuleSet.size, rules]
  clear rules loaded distinct
  induction c.policies with
  | nil => rfl
  | cons policy rest ih => rw [List.flatMap_cons, List.length_append, ih]; rfl

/-- A text with one document twice. The name of its type looks like the end of the source of a rule. -/
def twice : Source :=
  let document := "description: d\ncontext: \x7bproject: p\x7d\nby: \x7bgroup: g\x7d\nfor:\n" ++
    "  a][rule:1: [\x7ballow: r\x7d]\n"
  .ofText (document ++ "---\n" ++ document) "s[1]"

theorem twice_keeps_all_rules :
    ∃ c, Loaded [twice] none .empty 1 c ∧ c.policies.length = 2 ∧ c.rules.size = 2 ∧
      c.rules.size = (c.policies.map fun policy => policy.rules.size).foldr (· + ·) 0 ∧
      c.rules.rules = c.policies.flatMap (fun policy => policy.rules.rules) := by
  have passes : ((ofSources [twice] none .empty).map fun c =>
      (c.policies.length, c.rules.size)).toOption = some (2, 2) := by decide +kernel
  cases made : ofSources [twice] none .empty with
  | error fault => simp [made, Except.map, Except.toOption] at passes
  | ok c =>
    have counts : c.policies.length = 2 ∧ c.rules.size = 2 := by
      simpa [made, Except.map, Except.toOption] using passes
    have loaded : Loaded [twice] none .empty 1 c := .inTurn (Or.inl (by decide)) made
    obtain ⟨size, rules, _⟩ := loaded.keeps_all_rules (by decide)
    exact ⟨c, loaded, counts.1, counts.2, size, rules⟩

end Collection

end AccessPolicy
