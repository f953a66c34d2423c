import AccessPolicy.Proofs.Policy.Names
import AccessPolicy.Proofs.Source.Identity
import AccessPolicy.Proofs.Trials
import Mathlib.Data.List.ProdSigma

namespace AccessPolicy

/-- An entry of a document, with the type that it is for and its place among the entries for the type. -/
structure Article where
  type : String
  index : Nat
  entry : Entry

/-- All articles of a document. -/
def Document.articles (d : Document) : List Article :=
  d.entries.flatMap fun (type, entries) => entries.zipIdx.map fun (e, i) => ⟨type, i + 1, e⟩

/-- The source of the rules from an article. -/
def Article.source (a : Article) (source : String) : String :=
  source ++ ("[type:" ++ a.type ++ "]") ++ ("[rule:" ++ toString a.index ++ "]")

/-- The rule of an article for a principal. -/
def Article.rule (a : Article) (d : Document) (environment : Environment) (source : String) (principal : Principal) :
    Except PolicyFault Rule :=
  a.entry.rule a.index
    { ((d.prototype environment source).withPrincipal principal).extendSource ("[type:" ++ a.type ++ "]") with
      resourceType := some a.type }

namespace Document

theorem mem_articles {d : Document} {a : Article} :
    a ∈ d.articles ↔ ∃ entries i, (a.type, entries) ∈ d.entries ∧ entries[i]? = some a.entry ∧ a.index = i + 1 := by
  simp only [articles, List.mem_flatMap, List.mem_map, Prod.exists, List.mem_zipIdx_iff_getElem?]
  constructor
  · rintro ⟨type, entries, member, e, i, atI, rfl⟩
    exact ⟨entries, i, member, atI, rfl⟩
  · rintro ⟨entries, i, member, atI, index⟩
    exact ⟨a.type, entries, member, a.entry, i, atI, by rw [← index]⟩

theorem length_articles (d : Document) :
    d.articles.length = (d.entries.flatMap Prod.snd).length := by
  rw [articles]
  induction d.entries with
  | nil => rfl
  | cons first rest ih => simp [ih]

theorem product_eq (principals : List Principal) (articles : List Article) :
    principals ×ˢ articles = principals.flatMap fun p => articles.map (Prod.mk p) := rfl

/-- The rules of a document are made principal by principal and, for each, article by article. -/
theorem expand_eq (d : Document) (environment : Environment) (source : String) (principals : List Principal) :
    d.expand environment source principals =
      ((principals ×ˢ d.articles).mapM fun (pair : Principal × Article) =>
        pair.2.rule d environment source pair.1).map RuleSet.ofList := by
  have perPrincipal : ∀ p : Principal, (d.articles.mapM fun a => a.rule d environment source p) =
      (d.entries.mapM fun (type, entries) =>
        typeRules type entries ((d.prototype environment source).withPrincipal p)).map List.flatten := by
    intro p
    rw [articles, mapM_flatMap]
    simp only [List.mapM_map]
    rfl
  rw [product_eq, mapM_flatMap]
  simp only [List.mapM_map, Function.comp_def, perPrincipal, mapM_map_result, expand]
  cases principals.mapM fun p => d.entries.mapM fun (type, entries) =>
      typeRules type entries ((d.prototype environment source).withPrincipal p) with
  | error fault => rfl
  | ok rules => simp [Except.map, bind, Except.bind, pure, Except.pure, List.flatten_flatten]

/-- A valid document has types, each of them has entries, and no entry violates anything. -/
theorem rules_of_valid {d : Document} (valid : d.violation? = none) :
    d.entries ≠ [] ∧ ∀ type entries, (type, entries) ∈ d.entries →
      entries ≠ [] ∧ ∀ e ∈ entries, entryViolation? d.excluded.isNone e = none := by
  unfold violation? at valid
  simp only [Option.or_eq_none_iff] at valid
  obtain ⟨_, rules, _⟩ := valid
  unfold rulesViolation? at rules
  split at rules
  · simp at rules
  · simp at rules
  · rename_i m nonempty given
    have same : d.entries = m.entries := by simp [Document.entries, given]
    rw [same]
    refine ⟨fun none => ?_, fun type entries member => ?_⟩
    · obtain ⟨_ | ⟨first, rest⟩, distinct⟩ := m
      · exact nonempty distinct rfl
      · simp at none
    · have ofType := List.findSome?_eq_none_iff.mp rules (type, entries) member
      simp only [typeViolation?] at ofType
      split at ofType
      · simp at ofType
      · rename_i some
        refine ⟨by simpa using some, fun e inEntries => ?_⟩
        obtain ⟨i, atI⟩ := List.mem_iff_getElem?.mp inEntries
        have ofEntry := List.findSome?_eq_none_iff.mp ofType (e, i) (List.mem_zipIdx_iff_getElem?.mpr atI)
        simpa using ofEntry

theorem grants_of_valid {d : Document} {a : Article} (valid : d.violation? = none) (member : a ∈ d.articles) :
    (∃ allow, Actions.ofGrant? a.entry.allow = some allow ∧ allow.Are a.entry.allow) ∧
      ∃ deny, Actions.ofGrant? a.entry.deny = some deny ∧ deny.Are a.entry.deny := by
  obtain ⟨entries, i, inRules, atI, _⟩ := mem_articles.mp member
  have entry := ((rules_of_valid valid).2 a.type entries inRules).2 a.entry (List.mem_of_getElem? atI)
  simp only [entryViolation?, Option.or_eq_none_iff] at entry
  exact ⟨Actions.exists_ofGrant? entry.1, Actions.exists_ofGrant? entry.2.1⟩

theorem articles_ne_nil {d : Document} (valid : d.violation? = none) : d.articles ≠ [] := by
  obtain ⟨some, each⟩ := rules_of_valid valid
  obtain ⟨⟨type, entries⟩, member⟩ := List.exists_mem_of_ne_nil d.entries some
  obtain ⟨e, inEntries⟩ := List.exists_mem_of_ne_nil entries (each type entries member).1
  obtain ⟨i, atI⟩ := List.mem_iff_getElem?.mp inEntries
  exact List.ne_nil_of_mem (mem_articles.mpr ⟨entries, i, member, atI, rfl⟩ : ⟨type, i + 1, e⟩ ∈ d.articles)

end Document

namespace Article

theorem source_toList (a : Article) (source : String) :
    (a.source source).toList =
      (source ++ ("[type:" ++ a.type ++ "]")).toList ++
        '[' :: ("rule:".toList ++ (Nat.toDigits 10 a.index ++ [']'])) := by
  simp [Article.source]

/-- What follows the last opening bracket of a source is the place of its article, so the rest is the same as well. -/
theorem source_parts {a b : Article} {first second : String} (same : a.source first = b.source second) :
    first ++ ("[type:" ++ a.type ++ "]") = second ++ ("[type:" ++ b.type ++ "]") ∧ a.index = b.index := by
  have absent : ∀ n : Nat, '[' ∉ "rule:".toList ++ (Nat.toDigits 10 n ++ [']']) := by
    intro n
    simp [Source.bracket_not_mem_digits]
  have texts := congrArg String.toList same
  rw [source_toList, source_toList] at texts
  obtain ⟨front, back⟩ := Source.append_mark_inj (absent a.index) (absent b.index) texts
  exact ⟨String.toList_injective front,
    Text.toDigits_inj (List.append_cancel_right (List.append_cancel_left back))⟩

/-- Rules from two articles have different sources. -/
theorem source_inj {a b : Article} {source : String} (same : a.source source = b.source source) :
    a.type = b.type ∧ a.index = b.index := by
  obtain ⟨front, indices⟩ := source_parts same
  exact ⟨by simpa [String.ext_iff] using front, indices⟩

/-- If the types of two articles are the same, their sources give away what they begin with. -/
theorem eq_of_source {a b : Article} {first second : String} (types : a.type = b.type)
    (same : a.source first = b.source second) : first = second := by
  have front := (source_parts same).1
  rw [types] at front
  exact (String.append_left_inj _).mp front

end Article

end AccessPolicy
