import AccessPolicy.Proofs.Policy.Expansion
import AccessPolicy.Proofs.Policy.Stages
import Mathlib.Data.List.Nodup

namespace AccessPolicy

/-- A policy has the rules that its document calls for. Its principals are those that the document selects, its scope
is the resolved one, and its rules are those of the articles for each principal. -/
structure Policy.HasRulesOf (p : Policy) (d : Document) (source : String) (pinned : Option (List Attribute)) :
    Prop where
  resolved : Environment.resolve pinned Attribute.standardBase d = .ok p.environment
  names : ∀ kind, (p.principals.names kind).Nodup ∧
    ∀ name, name ∈ p.principals.names kind ↔ (d.selection kind).Declares name
  ruleFor : ∀ principal a, (d.selection principal.kind).Declares principal.name → a ∈ d.articles →
    ∃! r, r ∈ p.rules.rules ∧ r.Follows d p.environment source principal a
  noOther : ∀ r ∈ p.rules.rules, ∃ principal a, (d.selection principal.kind).Declares principal.name ∧
    a ∈ d.articles ∧ r.Follows d p.environment source principal a
  apart : ∀ (r : Rule) principal principal' a a', a ∈ d.articles → a' ∈ d.articles →
    r.Follows d p.environment source principal a → r.Follows d p.environment source principal' a' →
    principal = principal' ∧ a = a'
  size : p.rules.size = (p.principals.usernames.length + p.principals.groups.length + p.principals.urns.length) *
    (d.entries.flatMap Prod.snd).length
  nonempty : 1 ≤ p.rules.size

/-- The source of an article is in one place only. -/
theorem Document.article_eq_of_source {d : Document} {a b : Article} {source : String} (inA : a ∈ d.articles)
    (inB : b ∈ d.articles) (same : a.source source = b.source source) : a = b := by
  have distinct : (d.articles.map fun a => a.source source).Nodup := List.pairwise_map.mpr (d.articles_distinct source)
  exact List.inj_on_of_nodup_map distinct inA inB same

/-- Every policy has the rules that its document calls for. -/
theorem Policy.hasRulesOf {p : Policy} {d : Document} {source : String} {index : Int}
    {pinned : Option (List Attribute)} (created : Policy.ofDocument d source index pinned = .ok p) :
    p.HasRulesOf d source pinned := by
  have made := Policy.ofDocument_eq_ok_iff.mp created
  obtain ⟨⟨_, kind, name, declared⟩, names⟩ := Document.principals_eq_ok made.named
  have nodup := Principals.nodup_all fun kind => (names kind).1
  have inAll : ∀ principal : Principal,
      principal ∈ p.principals.all ↔ (d.selection principal.kind).Declares principal.name := by
    intro principal
    rw [Principals.mem_all, (names principal.kind).2]
  have follow := Document.follows_of_expand made.valid nodup made.expanded
  have tells : (p.rules.rules.map fun r => (r.principal, r.source)).Nodup :=
    List.pairwise_map.mpr
      ((Document.rules_distinct nodup follow).imp fun different same => different (Prod.mk.inj same))
  have size : p.rules.size = p.principals.all.length * d.articles.length := by
    rw [RuleSet.size, ← follow.length_eq, List.length_product]
  refine ⟨made.resolved, names, ?_, ?_, ?_, ?_, ?_⟩
  · intro principal a declares inArticles
    obtain ⟨r, inRules, follows⟩ := exists_right_of_mem follow
      (List.mem_product.mpr ⟨(inAll principal).mpr declares, inArticles⟩)
    refine ⟨r, ⟨inRules, follows⟩, ?_⟩
    rintro s ⟨inRules', follows'⟩
    refine List.inj_on_of_nodup_map tells inRules' inRules ?_
    rw [follows.principal, follows.source, follows'.principal, follows'.source]
  · intro r inRules
    obtain ⟨⟨principal, a⟩, member, follows⟩ := exists_left_of_mem follow inRules
    obtain ⟨inPrincipals, inArticles⟩ := List.mem_product.mp member
    exact ⟨principal, a, (inAll principal).mp inPrincipals, inArticles, follows⟩
  · intro r principal principal' a a' inArticles inArticles' follows follows'
    exact ⟨follows.principal.symm.trans follows'.principal,
      Document.article_eq_of_source inArticles inArticles' (follows.source.symm.trans follows'.source)⟩
  · rw [size, Principals.length_all, Document.length_articles]
  · rw [size]
    have principals : p.principals.all ≠ [] := List.ne_nil_of_mem ((inAll ⟨kind, name⟩).mpr declared)
    have articles := Document.articles_ne_nil made.valid
    exact Nat.mul_pos (List.length_pos_of_ne_nil principals) (List.length_pos_of_ne_nil articles)

/-- A document about a user and a group of one name. The name of its second type looks like the end of a source. -/
def bracketed : Document where
  description := some "d"
  scope := some ⟨some "ops", none⟩
  included := some ⟨.list [.text "u", .text "u"], .text "u", .null⟩
  excluded := none
  rules := some ⟨[("a", [⟨.text "read", .null, ⟨none, none, none, none⟩⟩]),
    ("a][rule:1", [⟨.text "read", .null, ⟨none, none, none, none⟩⟩, ⟨.null, .text "read", ⟨none, none, none, none⟩⟩])],
    by decide⟩

theorem bracketed_has_rules : ∃ p, Policy.ofDocument bracketed "s" 1 none = .ok p ∧ p.rules.size = 6 ∧
    p.HasRulesOf bracketed "s" none := by
  have passes : ((Policy.ofDocument bracketed "s" 1 none).toOption.map fun p => p.rules.size) = some 6 := by
    decide +kernel
  cases created : Policy.ofDocument bracketed "s" 1 none with
  | error fault => simp [created, Except.toOption] at passes
  | ok p => exact ⟨p, rfl, by simpa [created, Except.toOption] using passes, Policy.hasRulesOf created⟩
end AccessPolicy
