import AccessPolicy.Proofs.Environment.Origin
import AccessPolicy.Proofs.Policy.CrossProduct

namespace AccessPolicy

/-- A section of matchers can be met: it has entries, each of them has a value, none of them is a grant, and none has
another key than the only one that the section knows. -/
structure Properties.CanBeMet (only : Option String) (p : Properties) : Prop where
  nonempty : p ≠ []
  given : ∀ e ∈ p, e.2 ≠ .null
  noGrant : ∀ e ∈ p, e.1 ≠ "allow" ∧ e.1 ≠ "deny"
  known : ∀ key, only = some key → ∀ e ∈ p, e.1 = key

/-- The sections of matchers, each with the only key that it knows, if it does not know them all. -/
def Matchers.sections (m : Matchers) : List (Option String × Option Properties) :=
  [(some "tags", m.contains), (none, m.equals), (none, m.regex), (none, m.subset)]

/-- What holds of a rule that comes from a document in the scope that the caller pins, or else in the one that the
document declares. -/
structure Rule.Sound (r : Rule) (d : Document) (pinned : Option (List Attribute)) : Prop where
  bound : r.toBuilder.principals = [r.principal]
  grants : r.allow ≠ [] ∨ r.deny ≠ []
  excludes : r.inclusive = false → r.allow = []
  described : ∃ text, r.description = some text
  matchers : ∀ only p, (only, some p) ∈ r.matchers.sections → Properties.CanBeMet only p
  pinnedScope : ∀ attributes, pinned = some attributes →
    Environment.ofAttributes Attribute.standardBase attributes.eraseDups = .ok r.environment
  declaredScope : pinned = none → r.environment.DeclaredBy d

theorem Value.isNull_eq_false_iff {v : Value} : v.isNull = false ↔ v ≠ .null := by
  cases v <;> simp [Value.isNull]

theorem Value.eq_null_of_isNull {v : Value} (isNull : v.isNull = true) : v = .null := by
  cases v <;> simp [Value.isNull] at isNull ⊢

theorem Rule.principals_toBuilder (r : Rule) : r.toBuilder.principals = [r.principal] := by
  obtain ⟨_, _, _, _, _, ⟨kind, name⟩, _, _, _, _, _⟩ := r
  cases kind <;> rfl

namespace Document

/-- A section violates nothing exactly if it can be met. -/
theorem matcherViolation?_eq_none_iff {name : String} {only : Option String} {p : Properties} :
    matcherViolation? name only (some p) = none ↔ Properties.CanBeMet only p := by
  unfold matcherViolation?
  split
  · rename_i none
    cases none
  · rename_i empty
    obtain rfl : p = [] := Option.some.inj empty
    simpa using fun can : Properties.CanBeMet only [] => can.nonempty rfl
  · rename_i entries nonempty same
    obtain rfl : p = entries := Option.some.inj same
    have given : (p.find? fun e => e.2.isNull) = none ↔ ∀ e ∈ p, e.2 ≠ .null := by
      simp [List.find?_eq_none, Value.isNull_eq_false_iff]
    have noGrant : (p.any fun e => e.1 == "allow" || e.1 == "deny") = false ↔
        ∀ e ∈ p, e.1 ≠ "allow" ∧ e.1 ≠ "deny" := by
      simp [List.any_eq_false]
    have known : ∀ key, (p.any fun e => e.1 != key) = false ↔ ∀ e ∈ p, e.1 = key := by
      simp [List.any_eq_false]
    have full : p ≠ [] := fun empty => nonempty (by rw [empty])
    constructor
    · intro valid
      split at valid
      · cases valid
      · rename_i allGiven
        split at valid
        · cases valid
        · rename_i noneGrants
          refine ⟨full, given.mp allGiven, noGrant.mp (by simpa using noneGrants), ?_⟩
          rintro key rfl
          exact (known key).mp (by simpa using valid)
    · intro can
      rw [given.mpr can.given]
      simp only [noGrant.mpr can.noGrant, Bool.false_eq_true, if_false]
      cases only with
      | none => rfl
      | some key => simp [(known key).mpr (can.known key rfl)]

/-- A valid document selects in one way only, so it excludes exactly if it does not include. -/
theorem isInclusive_eq_isNone_of_valid {d : Document} (valid : d.violation? = none) :
    d.isInclusive = d.excluded.isNone := by
  unfold violation? at valid
  obtain ⟨selector, _⟩ := Option.or_eq_none_iff.mp valid
  unfold selectorViolation? at selector
  cases included : d.included <;> cases excluded : d.excluded <;>
    simp [included, excluded, isInclusive] at selector ⊢

theorem described_of_valid {d : Document} (valid : d.violation? = none) : ∃ text, d.description = some text := by
  unfold violation? at valid
  simp only [Option.or_eq_none_iff] at valid
  obtain ⟨_, _, described⟩ := valid
  cases given : d.description with
  | none => simp [given] at described
  | some text => exact ⟨text, rfl⟩

end Document

/-- Actions of a valid grant are there unless there is no grant. -/
theorem Actions.Are.eq_nil_iff {part : String} {v : Value} {actions : Actions}
    (valid : Document.grantViolation? part v = none) (are : actions.Are v) : actions = [] ↔ v = .null := by
  obtain ⟨names, rfl, _, declared⟩ := are
  rw [List.map_eq_nil_iff]
  cases v with
  | null => simpa [List.eq_nil_iff_forall_not_mem, Value.Declares] using declared
  | text s =>
    have member : s ∈ names := (declared s).mpr rfl
    simpa using List.ne_nil_of_mem member
  | list items =>
    cases items with
    | nil => simp [Document.grantViolation?] at valid
    | cons v rest =>
      obtain ⟨texts, same⟩ := @texts_of_find? (v :: rest) (by simpa [Document.grantViolation?] using valid)
      cases texts with
      | nil => simp at same
      | cons s texts =>
        have member : s ∈ names := (declared s).mpr (by simp [Value.Declares, same])
        simpa using List.ne_nil_of_mem member
  | _ => simp [Document.grantViolation?] at valid

/-- What an entry of a valid document passes. -/
structure Entry.Passes (inclusive : Bool) (e : Entry) : Prop where
  allow : Document.grantViolation? "allow" e.allow = none
  deny : Document.grantViolation? "deny" e.deny = none
  excludes : inclusive = false → e.allow = .null
  grants : e.allow ≠ .null ∨ e.deny ≠ .null
  matchers : ∀ only p, (only, some p) ∈ e.matchers.sections → Properties.CanBeMet only p

theorem Document.entryViolation?_eq_none {inclusive : Bool} {e : Entry}
    (valid : entryViolation? inclusive e = none) : e.Passes inclusive := by
  simp only [entryViolation?, Option.or_eq_none_iff] at valid
  obtain ⟨allow, deny, exclusion, grant, contains, equals, regex, subset⟩ := valid
  refine ⟨allow, deny, ?_, ?_, ?_⟩
  · rintro rfl
    refine Value.eq_null_of_isNull ?_
    cases isNull : e.allow.isNull <;> simp [isNull] at exclusion ⊢
  · rw [← Value.isNull_eq_false_iff, ← Value.isNull_eq_false_iff]
    cases isAllowNull : e.allow.isNull <;> cases isDenyNull : e.deny.isNull <;>
      simp [Entry.isEmpty, isAllowNull, isDenyNull] at grant ⊢
  · intro only p member
    simp only [Matchers.sections, List.mem_cons, Prod.mk.injEq, List.not_mem_nil, or_false] at member
    rcases member with ⟨rfl, given⟩ | ⟨rfl, given⟩ | ⟨rfl, given⟩ | ⟨rfl, given⟩
    · exact matcherViolation?_eq_none_iff.mp (by rw [given]; exact contains)
    · exact matcherViolation?_eq_none_iff.mp (by rw [given]; exact equals)
    · exact matcherViolation?_eq_none_iff.mp (by rw [given]; exact regex)
    · exact matcherViolation?_eq_none_iff.mp (by rw [given]; exact subset)

theorem Article.passes_of_valid {d : Document} {a : Article} (valid : d.violation? = none) (member : a ∈ d.articles) :
    a.entry.Passes d.isInclusive := by
  obtain ⟨entries, i, inRules, atI, _⟩ := Document.mem_articles.mp member
  rw [Document.isInclusive_eq_isNone_of_valid valid]
  exact Document.entryViolation?_eq_none
    (((Document.rules_of_valid valid).2 a.type entries inRules).2 a.entry (List.mem_of_getElem? atI))

/-- Every rule of a policy follows from an article of its document. -/
theorem Policy.MadeFrom.exists_follows {p : Policy} {d : Document} {source : String} {index : Int}
    {pinned : Option (List Attribute)} {r : Rule} (made : p.MadeFrom d source index pinned)
    (member : r ∈ p.rules.rules) :
    ∃ principal, ∃ a ∈ d.articles, r.Follows d p.environment source principal a := by
  have nodup := Principals.nodup_all fun kind => ((Document.principals_eq_ok made.named).2 kind).1
  obtain ⟨⟨principal, a⟩, inProduct, follows⟩ :=
    exists_left_of_mem (Document.follows_of_expand made.valid nodup made.expanded) member
  exact ⟨principal, a, (List.mem_product.mp inProduct).2, follows⟩

/-- Every rule of a policy is sound. -/
theorem Policy.MadeFrom.sound_of_mem {p : Policy} {d : Document} {source : String} {index : Int}
    {pinned : Option (List Attribute)} {r : Rule} (made : p.MadeFrom d source index pinned) (member : r ∈ p.rules.rules) :
    r.Sound d pinned := by
  obtain ⟨principal, a, inArticles, follows⟩ := made.exists_follows member
  have passes := a.passes_of_valid made.valid inArticles
  refine ⟨r.principals_toBuilder, ?_, ?_, ?_, ?_, ?_, ?_⟩
  · rw [ne_eq, ne_eq, follows.allow.eq_nil_iff passes.allow, follows.deny.eq_nil_iff passes.deny]
    exact passes.grants
  · intro exclusive
    rw [follows.allow.eq_nil_iff passes.allow]
    exact passes.excludes (follows.inclusive.symm.trans exclusive)
  · rw [follows.description]
    exact Document.described_of_valid made.valid
  · rw [follows.matchers]
    exact passes.matchers
  · rintro attributes rfl
    rw [follows.environment]
    exact Environment.resolve_pinned made.resolved
  · rintro rfl
    rw [follows.environment]
    exact Environment.resolve_declared made.resolved

end AccessPolicy
