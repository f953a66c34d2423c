import AccessPolicy.Proofs.Checks
import AccessPolicy.Proofs.Policy.Soundness

namespace AccessPolicy

open Document (EntryViolation)

/-- A grant that is in order: there is none, it is a text, or it is some texts. -/
inductive IsGrant : Value → Prop
  | absent : IsGrant .null
  | one (name : String) : IsGrant (.text name)
  | several {names : List String} (nonempty : names ≠ []) : IsGrant (.list (names.map .text))

/-- What is wrong with a grant: it is an empty list, a list of which the first item that is no text has another kind, or
data of another kind. -/
inductive GrantBreaks (part : String) : Value → EntryViolation → Prop
  | empty : GrantBreaks part (.list []) (.emptyGrant part)
  | item {names : List String} {v : Value} {after : List Value} (noText : ∀ name, v ≠ .text name) :
      GrantBreaks part (.list (names.map .text ++ v :: after)) (.grantItem part v.kind)
  | kind {v : Value} (given : v ≠ .null) (noText : ∀ name, v ≠ .text name) (noList : ∀ items, v ≠ .list items) :
      GrantBreaks part v (.grantKind part v.kind)

/-- What is wrong with a section of matchers: it is empty, else its first key without a value has none, else it holds a
grant, else it has a key that is not the only one which it knows. -/
inductive SectionBreaks (part : String) (only : Option String) : Properties → EntryViolation → Prop
  | empty : SectionBreaks part only [] (.emptyMatcher part)
  | null {before after : Properties} {key : String} (given : ∀ e ∈ before, e.2 ≠ .null) :
      SectionBreaks part only (before ++ (key, .null) :: after) (.nullMatcher part key)
  | grant {p : Properties} (given : ∀ e ∈ p, e.2 ≠ .null) (grants : ∃ e ∈ p, e.1 = "allow" ∨ e.1 = "deny") :
      SectionBreaks part only p (.grantInMatcher part)
  | key {p : Properties} {key : String} (given : ∀ e ∈ p, e.2 ≠ .null)
      (noGrant : ∀ e ∈ p, e.1 ≠ "allow" ∧ e.1 ≠ "deny") (known : only = some key) (foreign : ∃ e ∈ p, e.1 ≠ key) :
      SectionBreaks part only p (.foreignKey part key)

/-- What is checked of an entry: the shapes of its grants, whether it may allow, whether it grants anything, and the
sections of its matchers. -/
inductive Aspect where
  | allow
  | deny
  | exclusion
  | grant
  | contains
  | equals
  | regex
  | subset
deriving DecidableEq

/-- The turn in which an aspect is checked. -/
def Aspect.turn : Aspect → Nat
  | allow => 0
  | deny => 1
  | exclusion => 2
  | grant => 3
  | contains => 4
  | equals => 5
  | regex => 6
  | subset => 7

/-- What an aspect of an entry violates, in a document about those that it selects or about all others. -/
inductive Entry.Violates (e : Entry) (inclusive : Bool) : Aspect → EntryViolation → Prop
  | allow {w : EntryViolation} (breaks : GrantBreaks "allow" e.allow w) : e.Violates inclusive .allow w
  | deny {w : EntryViolation} (breaks : GrantBreaks "deny" e.deny w) : e.Violates inclusive .deny w
  | exclusion (excludes : inclusive = false) (allows : e.allow ≠ .null) : e.Violates inclusive .exclusion .excludedAllow
  | grant (noAllow : e.allow = .null) (noDeny : e.deny = .null) : e.Violates inclusive .grant .noGrant
  | contains {p : Properties} {w : EntryViolation} (given : e.matchers.contains = some p)
      (breaks : SectionBreaks "contains" (some "tags") p w) : e.Violates inclusive .contains w
  | equals {p : Properties} {w : EntryViolation} (given : e.matchers.equals = some p)
      (breaks : SectionBreaks "equals" none p w) : e.Violates inclusive .equals w
  | regex {p : Properties} {w : EntryViolation} (given : e.matchers.regex = some p)
      (breaks : SectionBreaks "match" none p w) : e.Violates inclusive .regex w
  | subset {p : Properties} {w : EntryViolation} (given : e.matchers.subset = some p)
      (breaks : SectionBreaks "subset" none p w) : e.Violates inclusive .subset w

/-- A valid entry: it grants something, its grants are in order, it allows nothing if the document is about all others,
and its matchers can be met. -/
structure Entry.IsValid (e : Entry) (inclusive : Bool) : Prop where
  grants : e.allow ≠ .null ∨ e.deny ≠ .null
  allow : IsGrant e.allow
  deny : IsGrant e.deny
  excludes : inclusive = false → e.allow = .null
  matchers : ∀ only p, (only, some p) ∈ e.matchers.sections → Properties.CanBeMet only p

theorem Value.isNull_iff {v : Value} : v.isNull = true ↔ v = .null := by
  cases v <;> simp [Value.isNull]

namespace Document

theorem isText_iff {v : Value} : isText v = true ↔ ∃ name, v = .text name := by
  cases v <;> simp [isText]

theorem exists_names {items : List Value} (texts : ∀ v ∈ items, isText v = true) :
    ∃ names : List String, items = names.map .text :=
  texts_of_find? (List.find?_eq_none.mpr fun v member => by simp [texts v member])

theorem find?_other_iff {items : List Value} {v : Value} :
    (items.find? fun item => !isText item) = some v ↔
      (∀ name, v ≠ .text name) ∧
        ∃ (names : List String) (after : List Value), items = names.map .text ++ v :: after := by
  have other : (!isText v) = true ↔ ∀ name, v ≠ .text name := by
    rw [Bool.not_eq_true', ← Bool.not_eq_true, isText_iff, not_exists]
  rw [List.find?_eq_some_iff_append, other]
  refine and_congr_right fun _ => ⟨?_, ?_⟩
  · rintro ⟨before, after, rfl, texts⟩
    obtain ⟨names, rfl⟩ := exists_names fun w member => by simpa using texts w member
    exact ⟨names, after, rfl⟩
  · rintro ⟨names, after, rfl⟩
    refine ⟨names.map .text, after, rfl, fun w member => ?_⟩
    obtain ⟨name, _, rfl⟩ := List.mem_map.mp member
    rfl

theorem grantViolation?_eq_some_iff {part : String} {v : Value} {w : EntryViolation} :
    grantViolation? part v = some w ↔ GrantBreaks part v w := by
  constructor
  · intro found
    unfold grantViolation? at found
    split at found
    · cases found
    · cases found
    · obtain rfl := Option.some.inj found
      exact .empty
    · obtain ⟨u, first, rfl⟩ := Option.map_eq_some_iff.mp found
      obtain ⟨noText, names, after, rfl⟩ := find?_other_iff.mp first
      exact .item noText
    · rename_i noNull noText _ noList
      obtain rfl := Option.some.inj found
      exact .kind noNull noText noList
  · intro breaks
    cases breaks with
    | empty => rfl
    | @item names u after noText =>
      have first := find?_other_iff.mpr ⟨noText, names, after, rfl⟩
      cases names with
      | nil =>
        rw [List.map_nil, List.nil_append] at first ⊢
        rw [grantViolation?, first]
        · rfl
        · simp
      | cons name names =>
        rw [List.map_cons, List.cons_append] at first ⊢
        rw [grantViolation?, first]
        · rfl
        · simp
    | kind given noText noList =>
      cases v with
      | null => exact absurd rfl given
      | text name => exact absurd rfl (noText name)
      | list items => exact absurd rfl (noList items)
      | _ => rfl

theorem grantViolation?_eq_none_iff {part : String} {v : Value} : grantViolation? part v = none ↔ IsGrant v := by
  constructor
  · intro valid
    unfold grantViolation? at valid
    split at valid
    · exact .absent
    · exact .one _
    · cases valid
    · rename_i items nonempty
      obtain ⟨names, rfl⟩ := texts_of_find? (Option.map_eq_none_iff.mp valid)
      exact .several fun none => nonempty (by simp [none])
    · cases valid
  · intro grant
    cases grant with
    | absent => rfl
    | one name => rfl
    | @several names nonempty =>
      have none : ((names.map Value.text).find? fun item => !isText item) = none := by simp [isText]
      cases names with
      | nil => exact absurd rfl nonempty
      | cons name names =>
        rw [List.map_cons] at none ⊢
        rw [grantViolation?, none]
        · rfl
        · simp

theorem find?_null_iff {p : Properties} {e : String × Value} :
    (p.find? fun e => e.2.isNull) = some e ↔
      e.2 = .null ∧ ∃ before after, p = before ++ e :: after ∧ ∀ b ∈ before, b.2 ≠ .null := by
  rw [List.find?_eq_some_iff_append, Value.isNull_iff]
  simp only [Bool.not_eq_true', Value.isNull_eq_false_iff]

theorem matcherViolation?_eq {part : String} {only : Option String} {p : Properties} (nonempty : p ≠ []) :
    matcherViolation? part only (some p) =
      ((p.find? fun e => e.2.isNull).map fun e => EntryViolation.nullMatcher part e.1).or
        ((if p.any fun e => e.1 == "allow" || e.1 == "deny" then some (.grantInMatcher part) else none).or
          (only.bind fun key => if p.any fun e => e.1 != key then some (.foreignKey part key) else none)) := by
  cases p with
  | nil => exact absurd rfl nonempty
  | cons first rest =>
    simp only [matcherViolation?]
    cases (first :: rest).find? fun e => e.2.isNull with
    | some e => rfl
    | none =>
      simp only [Option.map_none, Option.none_or]
      split
      · rfl
      · cases only <;> rfl

theorem matcherViolation?_eq_some_iff {part : String} {only : Option String} {p : Properties} {w : EntryViolation} :
    matcherViolation? part only (some p) = some w ↔ SectionBreaks part only p w := by
  by_cases empty : p = []
  · subst empty
    rw [matcherViolation?, Option.some.injEq]
    constructor
    · rintro rfl
      exact .empty
    · intro breaks
      generalize given : ([] : Properties) = p at breaks
      cases breaks with
      | empty => rfl
      | null => simp at given
      | grant _ grants => subst given; simp at grants
      | key _ _ _ foreign => subst given; simp at foreign
  · have given : (p.find? fun e => e.2.isNull) = none ↔ ∀ e ∈ p, e.2 ≠ .null := by
      simp [List.find?_eq_none, Value.isNull_eq_false_iff]
    have grants : (p.any fun e => e.1 == "allow" || e.1 == "deny") = true ↔ ∃ e ∈ p, e.1 = "allow" ∨ e.1 = "deny" := by
      simp [List.any_eq_true]
    have foreign : ∀ key, (p.any fun e => e.1 != key) = true ↔ ∃ e ∈ p, e.1 ≠ key := by
      simp [List.any_eq_true]
    rw [matcherViolation?_eq empty, Option.or_eq_some_iff, Option.or_eq_some_iff, Option.map_eq_none_iff, given,
      Option.map_eq_some_iff]
    constructor
    · rintro (⟨⟨key, v⟩, first, rfl⟩ | ⟨allGiven, found | ⟨noGrant, found⟩⟩)
      · obtain ⟨rfl, before, after, rfl, valued⟩ := find?_null_iff.mp first
        exact .null valued
      · obtain ⟨held, same⟩ := Option.ite_none_right_eq_some.mp found
        obtain rfl := Option.some.inj same
        exact .grant allGiven (grants.mp held)
      · obtain ⟨key, known, found⟩ := Option.bind_eq_some_iff.mp found
        obtain ⟨other, same⟩ := Option.ite_none_right_eq_some.mp found
        obtain rfl := Option.some.inj same
        refine .key allGiven (fun e member => not_or.mp fun grant => ?_) known ((foreign key).mp other)
        simp [grants.mpr ⟨e, member, grant⟩] at noGrant
    · intro breaks
      cases breaks with
      | empty => exact absurd rfl empty
      | @null before after key valued =>
        exact Or.inl ⟨(key, .null), find?_null_iff.mpr ⟨rfl, before, after, rfl, valued⟩, rfl⟩
      | grant allGiven held => exact Or.inr ⟨allGiven, Or.inl (if_pos (grants.mpr held))⟩
      | key allGiven noGrant known other =>
        have none : ¬(p.any fun e => e.1 == "allow" || e.1 == "deny") = true := by
          rw [grants]
          rintro ⟨e, member, found⟩
          exact found.elim (noGrant e member).1 (noGrant e member).2
        refine Or.inr ⟨allGiven, Or.inr ⟨if_neg none, ?_⟩⟩
        rw [known, Option.bind_some, if_pos ((foreign _).mpr other)]

/-- The checks of an entry, each with its aspect. -/
def entryChecks (inclusive : Bool) (e : Entry) : List (Aspect × Option EntryViolation) :=
  [(.allow, grantViolation? "allow" e.allow), (.deny, grantViolation? "deny" e.deny),
    (.exclusion, if !inclusive && !e.allow.isNull then some .excludedAllow else none),
    (.grant, if e.isEmpty then some .noGrant else none),
    (.contains, matcherViolation? "contains" (some "tags") e.matchers.contains),
    (.equals, matcherViolation? "equals" none e.matchers.equals),
    (.regex, matcherViolation? "match" none e.matchers.regex),
    (.subset, matcherViolation? "subset" none e.matchers.subset)]

theorem entryViolation?_eq (inclusive : Bool) (e : Entry) :
    entryViolation? inclusive e = firstFound (entryChecks inclusive e) := by
  simp only [entryChecks, firstFound_cons, entryViolation?]
  rw [firstFound, List.findSome?_nil, Option.or_none]

theorem entryChecks_sorted (inclusive : Bool) (e : Entry) :
    (entryChecks inclusive e).Pairwise fun a b => a.1.turn < b.1.turn := by
  simp [entryChecks, Aspect.turn]

theorem section_breaks_iff {part : String} {only : Option String} {p? : Option Properties} {w : EntryViolation} :
    matcherViolation? part only p? = some w ↔ ∃ p, p? = some p ∧ SectionBreaks part only p w := by
  cases p? with
  | none => simp [matcherViolation?]
  | some p => simp [matcherViolation?_eq_some_iff]

/-- What the checks of an entry find is what its aspects violate. -/
theorem mem_entryChecks_iff {inclusive : Bool} {e : Entry} {a : Aspect} {w : EntryViolation} :
    (a, some w) ∈ entryChecks inclusive e ↔ e.Violates inclusive a w := by
  have exclusion : (if !inclusive && !e.allow.isNull then some EntryViolation.excludedAllow else none) = some w ↔
      (inclusive = false ∧ e.allow ≠ .null) ∧ .excludedAllow = w := by
    rw [Option.ite_none_right_eq_some, Bool.and_eq_true, Bool.not_eq_true', Bool.not_eq_true',
      Value.isNull_eq_false_iff, Option.some.injEq]
  have grant : (if e.isEmpty then some EntryViolation.noGrant else none) = some w ↔
      (e.allow = .null ∧ e.deny = .null) ∧ .noGrant = w := by
    rw [Option.ite_none_right_eq_some, Entry.isEmpty, Bool.and_eq_true, Value.isNull_iff, Value.isNull_iff,
      Option.some.injEq]
  simp only [entryChecks, List.mem_cons, List.not_mem_nil, or_false, Prod.mk.injEq]
  constructor
  · intro found
    rcases found with ⟨rfl, found⟩ | ⟨rfl, found⟩ | ⟨rfl, found⟩ | ⟨rfl, found⟩ | ⟨rfl, found⟩ | ⟨rfl, found⟩ |
      ⟨rfl, found⟩ | ⟨rfl, found⟩
    · exact .allow (grantViolation?_eq_some_iff.mp found.symm)
    · exact .deny (grantViolation?_eq_some_iff.mp found.symm)
    · obtain ⟨⟨excludes, allows⟩, rfl⟩ := exclusion.mp found.symm
      exact .exclusion excludes allows
    · obtain ⟨⟨noAllow, noDeny⟩, rfl⟩ := grant.mp found.symm
      exact .grant noAllow noDeny
    · obtain ⟨p, given, breaks⟩ := section_breaks_iff.mp found.symm
      exact .contains given breaks
    · obtain ⟨p, given, breaks⟩ := section_breaks_iff.mp found.symm
      exact .equals given breaks
    · obtain ⟨p, given, breaks⟩ := section_breaks_iff.mp found.symm
      exact .regex given breaks
    · obtain ⟨p, given, breaks⟩ := section_breaks_iff.mp found.symm
      exact .subset given breaks
  · intro violates
    cases violates with
    | allow breaks => simp [grantViolation?_eq_some_iff.mpr breaks]
    | deny breaks => simp [grantViolation?_eq_some_iff.mpr breaks]
    | exclusion excludes allows => simp [excludes, Value.isNull_eq_false_iff.mpr allows]
    | grant noAllow noDeny => simp [grant.mpr ⟨⟨noAllow, noDeny⟩, rfl⟩]
    | contains given breaks => simp [section_breaks_iff.mpr ⟨_, given, breaks⟩]
    | equals given breaks => simp [section_breaks_iff.mpr ⟨_, given, breaks⟩]
    | regex given breaks => simp [section_breaks_iff.mpr ⟨_, given, breaks⟩]
    | subset given breaks => simp [section_breaks_iff.mpr ⟨_, given, breaks⟩]

theorem entryViolation?_eq_none_iff {inclusive : Bool} {e : Entry} :
    entryViolation? inclusive e = none ↔ e.IsValid inclusive := by
  constructor
  · intro valid
    have passes := entryViolation?_eq_none valid
    exact ⟨passes.grants, grantViolation?_eq_none_iff.mp passes.allow, grantViolation?_eq_none_iff.mp passes.deny,
      passes.excludes, passes.matchers⟩
  · intro valid
    have unbroken : ∀ part only p?, (only, p?) ∈ e.matchers.sections →
        ∀ p w, p? = some p → ¬SectionBreaks part only p w := by
      rintro part only _ member p w rfl breaks
      have met := (@matcherViolation?_eq_none_iff part _ _).mpr (valid.matchers only p member)
      rw [matcherViolation?_eq_some_iff.mpr breaks] at met
      cases met
    rw [entryViolation?_eq, firstFound_eq_none_iff]
    intro a w member
    rw [mem_entryChecks_iff] at member
    cases member with
    | allow breaks => simp [← grantViolation?_eq_some_iff, grantViolation?_eq_none_iff.mpr valid.allow] at breaks
    | deny breaks => simp [← grantViolation?_eq_some_iff, grantViolation?_eq_none_iff.mpr valid.deny] at breaks
    | exclusion excludes allows => exact allows (valid.excludes excludes)
    | grant noAllow noDeny => exact valid.grants.elim (fun some => some noAllow) fun some => some noDeny
    | contains given breaks =>
      exact unbroken "contains" (some "tags") e.matchers.contains (by simp [Matchers.sections]) _ _ given breaks
    | equals given breaks =>
      exact unbroken "equals" none e.matchers.equals (by simp [Matchers.sections]) _ _ given breaks
    | regex given breaks =>
      exact unbroken "match" none e.matchers.regex (by simp [Matchers.sections]) _ _ given breaks
    | subset given breaks =>
      exact unbroken "subset" none e.matchers.subset (by simp [Matchers.sections]) _ _ given breaks

end Document

theorem Entry.isValid_iff {inclusive : Bool} {e : Entry} :
    e.IsValid inclusive ↔ ∀ aspect w, ¬e.Violates inclusive aspect w := by
  rw [← Document.entryViolation?_eq_none_iff, Document.entryViolation?_eq, firstFound_eq_none_iff]
  simp only [Document.mem_entryChecks_iff]

end AccessPolicy
