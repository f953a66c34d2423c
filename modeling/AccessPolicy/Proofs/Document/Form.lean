import AccessPolicy.Proofs.Document.Clauses

namespace AccessPolicy

/-- A selection that selects something. -/
def Selector.Selects (s : Selector) : Prop := s.username ≠ .null ∨ s.group ≠ .null ∨ s.urn ≠ .null

theorem Selector.isEmpty_iff {s : Selector} : s.isEmpty = true ↔ ¬s.Selects := by
  simp only [Selector.isEmpty, Selector.Selects, Bool.and_eq_true, Value.isNull_iff, not_or, not_not, and_assoc]

namespace Document

/-- A place of a document at which it can violate something. Types and their entries are counted from nought. -/
inductive Place where
  | selection
  | rules
  | type (t : Nat)
  | entry (t i : Nat) (aspect : Aspect)
  | description

/-- The numbers by which places are ordered, the first that differs deciding. -/
def Place.path : Place → List Nat
  | selection => [0]
  | rules => [1]
  | type t => [2, t]
  | entry t i aspect => [2, t, i, aspect.turn]
  | description => [3]

/-- Whether a place comes before another. -/
def Place.Before (p q : Place) : Prop := p.path < q.path

/-- What a document violates at a place. -/
inductive Violates (d : Document) : Place → Violation → Prop
  | noSelector (noneIncluded : d.included = none) (noneExcluded : d.excluded = none) :
      d.Violates .selection .noSelector
  | twoSelectors {s t : Selector} (included : d.included = some s) (excluded : d.excluded = some t) :
      d.Violates .selection .twoSelectors
  | emptyIncluded {s : Selector} (included : d.included = some s) (noneExcluded : d.excluded = none)
      (empty : ¬s.Selects) : d.Violates .selection (.emptySelector "by")
  | emptyExcluded {s : Selector} (noneIncluded : d.included = none) (excluded : d.excluded = some s)
      (empty : ¬s.Selects) : d.Violates .selection (.emptySelector "notBy")
  | noRules (absent : d.rules = none) : d.Violates .rules .noRules
  | emptyRules {m : TextMap (List Entry)} (given : d.rules = some m) (empty : m.entries = []) :
      d.Violates .rules .emptyRules
  | emptyType {t : Nat} {type : String} (atType : d.entries[t]? = some (type, [])) :
      d.Violates (.type t) (.emptyType type)
  | entry {t i : Nat} {type : String} {entries : List Entry} {e : Entry} {aspect : Aspect} {w : EntryViolation}
      (atType : d.entries[t]? = some (type, entries)) (atEntry : entries[i]? = some e)
      (violates : e.Violates d.excluded.isNone aspect w) : d.Violates (.entry t i aspect) (.entry type (i + 1) w)
  | noDescription (absent : d.description = none) : d.Violates .description .noDescription

/-- A valid document. It selects in exactly one way, and selects something; it has rules for at least one type, at least
one entry for each, and each entry is valid; and it is described. -/
structure IsValid (d : Document) : Prop where
  selects : ∃ s, s.Selects ∧
    (d.included = some s ∧ d.excluded = none ∨ d.included = none ∧ d.excluded = some s)
  rules : ∃ m, d.rules = some m ∧ m.entries ≠ [] ∧ ∀ type entries, (type, entries) ∈ m.entries →
    entries ≠ [] ∧ ∀ e ∈ entries, e.IsValid d.excluded.isNone
  described : ∃ text, d.description = some text

/-- The checks of the entries for a type, the type itself first. -/
def typeChecks (inclusive : Bool) (type : String) (entries : List Entry) (t : Nat) : List (Place × Check) :=
  (.type t, if entries.isEmpty then some (.emptyType type) else none) ::
    entries.zipIdx.flatMap fun (e, i) =>
      (entryChecks inclusive e).map fun check => (.entry t i check.1, check.2.map (.entry type (i + 1)))

/-- What is wrong with the rules as a whole. -/
def wholeRules? (d : Document) : Check :=
  match d.rules with
  | none => some .noRules
  | some m => if m.entries.isEmpty then some .emptyRules else none

/-- The checks of a document, each with its place. -/
def checks (d : Document) : List (Place × Check) :=
  (.selection, selectorViolation? d) :: (.rules, wholeRules? d) ::
    (d.entries.zipIdx.flatMap fun (rules, t) => typeChecks d.excluded.isNone rules.1 rules.2 t) ++
    [(.description, if d.description.isNone then some .noDescription else none)]

theorem firstFound_typeChecks (inclusive : Bool) (type : String) (entries : List Entry) (t : Nat) :
    firstFound (typeChecks inclusive type entries t) = typeViolation? inclusive type entries := by
  have each : ∀ (e : Entry) (i : Nat), firstFound ((entryChecks inclusive e).map fun check =>
      (Place.entry t i check.1, check.2.map (Violation.entry type (i + 1)))) =
        (entryViolation? inclusive e).map (.entry type (i + 1)) := by
    intro e i
    rw [firstFound_map, entryViolation?_eq]
  rw [typeChecks, firstFound_cons, firstFound_flatMap, typeViolation?]
  simp only [each]
  cases entries with
  | nil => rfl
  | cons e rest => rfl

theorem rulesViolation?_eq (d : Document) :
    rulesViolation? d =
      (wholeRules? d).or (d.entries.findSome? fun rules => typeViolation? d.excluded.isNone rules.1 rules.2) := by
  unfold rulesViolation? wholeRules? Document.entries
  cases given : d.rules with
  | none => rfl
  | some m =>
    obtain ⟨entries, distinct⟩ := m
    cases entries <;> rfl

theorem violation?_eq (d : Document) : d.violation? = firstFound d.checks := by
  simp only [checks, List.cons_append, firstFound_cons, firstFound_append, firstFound_flatMap, firstFound_typeChecks]
  rw [findSome?_zipIdx fun rules : String × List Entry => typeViolation? d.excluded.isNone rules.1 rules.2, violation?,
    rulesViolation?_eq, Option.or_assoc, firstFound, List.findSome?_nil, Option.or_none]

section Order

variable {d : Document}

theorem path_of_mem_typeChecks {inclusive : Bool} {type : String} {entries : List Entry} {t : Nat}
    {check : Place × Check} (member : check ∈ typeChecks inclusive type entries t) :
    ∃ rest, check.1.path = 2 :: t :: rest := by
  rcases List.mem_cons.mp member with rfl | inEntries
  · exact ⟨[], rfl⟩
  · obtain ⟨⟨e, i⟩, _, inEntry⟩ := List.mem_flatMap.mp inEntries
    obtain ⟨⟨aspect, found⟩, _, rfl⟩ := List.mem_map.mp inEntry
    exact ⟨[i, aspect.turn], rfl⟩

theorem pairwise_zipIdx {α : Type} (items : List α) : items.zipIdx.Pairwise fun a b => a.2 < b.2 := by
  rw [← List.pairwise_map (f := Prod.snd) (R := (· < ·)), List.zipIdx_map_snd]
  exact List.pairwise_lt_range' 1

theorem typeChecks_sorted (inclusive : Bool) (type : String) (entries : List Entry) (t : Nat) :
    (typeChecks inclusive type entries t).Pairwise fun a b => a.1.Before b.1 := by
  refine List.pairwise_cons.mpr ⟨fun check member => ?_, List.pairwise_flatMap.mpr ⟨fun item _ => ?_, ?_⟩⟩
  · obtain ⟨⟨e, i⟩, _, inEntry⟩ := List.mem_flatMap.mp member
    obtain ⟨⟨aspect, found⟩, _, rfl⟩ := List.mem_map.mp inEntry
    simp [Place.Before, Place.path]
  · obtain ⟨e, i⟩ := item
    refine List.pairwise_map.mpr ((entryChecks_sorted inclusive e).imp fun earlier => ?_)
    simpa [Place.Before, Place.path, List.cons_lt_cons_iff] using earlier
  · refine (pairwise_zipIdx entries).imp fun earlier check member check' member' => ?_
    obtain ⟨⟨aspect, found⟩, _, rfl⟩ := List.mem_map.mp member
    obtain ⟨⟨aspect', found'⟩, _, rfl⟩ := List.mem_map.mp member'
    simp [Place.Before, Place.path, List.cons_lt_cons_iff, earlier]

/-- The checks stand in the order of their places. -/
theorem checks_sorted (d : Document) : d.checks.Pairwise fun a b => a.1.Before b.1 := by
  have inside : ∀ check ∈ d.entries.zipIdx.flatMap fun (rules, t) =>
      typeChecks d.excluded.isNone rules.1 rules.2 t, ∃ t rest, check.1.path = 2 :: t :: rest := by
    intro check member
    obtain ⟨⟨rules, t⟩, _, inType⟩ := List.mem_flatMap.mp member
    exact ⟨t, path_of_mem_typeChecks inType⟩
  rw [checks, List.cons_append, List.cons_append]
  refine List.pairwise_cons.mpr ⟨fun check member => ?_, List.pairwise_cons.mpr ⟨fun check member => ?_,
    List.pairwise_append.mpr ⟨List.pairwise_flatMap.mpr ⟨fun item _ => typeChecks_sorted .., ?_⟩,
      List.pairwise_singleton .., fun check member last single => ?_⟩⟩⟩
  · show [0] < check.1.path
    rcases List.mem_cons.mp member with rfl | later
    · simp [Place.path, List.cons_lt_cons_iff]
    · rcases List.mem_append.mp later with inTypes | single
      · obtain ⟨t, rest, path⟩ := inside check inTypes
        simp [path, List.cons_lt_cons_iff]
      · obtain rfl := List.mem_singleton.mp single
        simp [Place.path, List.cons_lt_cons_iff]
  · show [1] < check.1.path
    rcases List.mem_append.mp member with inTypes | single
    · obtain ⟨t, rest, path⟩ := inside check inTypes
      simp [path, List.cons_lt_cons_iff]
    · obtain rfl := List.mem_singleton.mp single
      simp [Place.path, List.cons_lt_cons_iff]
  · refine (pairwise_zipIdx d.entries).imp fun earlier check member check' member' => ?_
    obtain ⟨rest, path⟩ := path_of_mem_typeChecks member
    obtain ⟨rest', path'⟩ := path_of_mem_typeChecks member'
    simp [Place.Before, path, path', List.cons_lt_cons_iff, earlier]
  · obtain ⟨t, rest, path⟩ := inside check member
    obtain rfl := List.mem_singleton.mp single
    show check.1.path < [3]
    simp [path, List.cons_lt_cons_iff]

end Order

section Places

variable {d : Document} {v : Violation}

theorem emptySelector?_some_iff {part : String} {s : Selector} :
    emptySelector? part (some s) = some v ↔ ¬s.Selects ∧ .emptySelector part = v := by
  rw [emptySelector?, Option.ite_none_right_eq_some, Selector.isEmpty_iff, Option.some.injEq]

theorem selectorViolation?_eq_some_iff : selectorViolation? d = some v ↔ d.Violates .selection v := by
  constructor
  · unfold selectorViolation?
    cases included : d.included <;> cases excluded : d.excluded <;> intro found
    case none.none =>
      obtain rfl := Option.some.inj found
      exact .noSelector included excluded
    case none.some s =>
      obtain ⟨empty, rfl⟩ := emptySelector?_some_iff.mp found
      exact .emptyExcluded included excluded empty
    case some.none s =>
      obtain ⟨empty, rfl⟩ := emptySelector?_some_iff.mp ((Option.or_none ..).symm.trans found)
      exact .emptyIncluded included excluded empty
    case some.some s t =>
      obtain rfl := Option.some.inj found
      exact .twoSelectors included excluded
  · intro violates
    cases violates with
    | noSelector noneIncluded noneExcluded => rw [selectorViolation?, noneIncluded, noneExcluded]
    | twoSelectors included excluded => rw [selectorViolation?, included, excluded]
    | emptyIncluded included noneExcluded empty =>
      simp only [selectorViolation?, included, noneExcluded, emptySelector?_some_iff.mpr ⟨empty, rfl⟩, Option.some_or]
    | emptyExcluded noneIncluded excluded empty =>
      simp only [selectorViolation?, noneIncluded, excluded]
      exact emptySelector?_some_iff.mpr ⟨empty, rfl⟩

theorem wholeRules?_eq_some_iff : wholeRules? d = some v ↔ d.Violates .rules v := by
  unfold wholeRules?
  cases given : d.rules with
  | none =>
    constructor
    · intro found
      obtain rfl := Option.some.inj found
      exact .noRules given
    · intro violates
      cases violates with
      | noRules => rfl
      | emptyRules other => simp [given] at other
  | some m =>
    simp only [Option.ite_none_right_eq_some, List.isEmpty_iff, Option.some.injEq]
    constructor
    · rintro ⟨empty, rfl⟩
      exact .emptyRules given empty
    · intro violates
      cases violates with
      | noRules absent => simp [given] at absent
      | emptyRules other empty =>
        obtain rfl := Option.some.inj (given.symm.trans other)
        exact ⟨empty, rfl⟩

theorem descriptionViolation?_eq_some_iff :
    (if d.description.isNone then some Violation.noDescription else none) = some v ↔ d.Violates .description v := by
  rw [Option.ite_none_right_eq_some, Option.isNone_iff_eq_none, Option.some.injEq]
  constructor
  · rintro ⟨absent, rfl⟩
    exact .noDescription absent
  · intro violates
    cases violates with
    | noDescription absent => exact ⟨absent, rfl⟩

theorem mem_typeChecks_iff {inclusive : Bool} {type : String} {entries : List Entry} {t : Nat} {p : Place} :
    (p, some v) ∈ typeChecks inclusive type entries t ↔
      (entries = [] ∧ p = .type t ∧ v = .emptyType type) ∨
        ∃ i e aspect w, entries[i]? = some e ∧ e.Violates inclusive aspect w ∧
          p = .entry t i aspect ∧ v = .entry type (i + 1) w := by
  rw [typeChecks, List.mem_cons, Prod.mk.injEq, List.mem_flatMap]
  refine or_congr ⟨?_, ?_⟩ ⟨?_, ?_⟩
  · rintro ⟨rfl, found⟩
    obtain ⟨empty, same⟩ := Option.ite_none_right_eq_some.mp found.symm
    exact ⟨List.isEmpty_iff.mp empty, rfl, (Option.some.inj same).symm⟩
  · rintro ⟨rfl, rfl, rfl⟩
    exact ⟨rfl, rfl⟩
  · rintro ⟨⟨e, i⟩, atEntry, member⟩
    obtain ⟨⟨aspect, found⟩, check, same⟩ := List.mem_map.mp member
    obtain ⟨rfl, told⟩ := Prod.mk.inj same
    obtain ⟨w, rfl, rfl⟩ := Option.map_eq_some_iff.mp told
    exact ⟨i, e, aspect, w, List.mem_zipIdx_iff_getElem?.mp atEntry, mem_entryChecks_iff.mp check, rfl, rfl⟩
  · rintro ⟨i, e, aspect, w, atEntry, violates, rfl, rfl⟩
    exact ⟨(e, i), List.mem_zipIdx_iff_getElem?.mpr atEntry,
      List.mem_map.mpr ⟨(aspect, some w), mem_entryChecks_iff.mpr violates, rfl⟩⟩

/-- What the checks of a document find is what it violates, each at its place. -/
theorem mem_checks_iff {p : Place} : (p, some v) ∈ d.checks ↔ d.Violates p v := by
  simp only [checks, List.cons_append, List.mem_cons, List.mem_append, List.mem_flatMap, List.not_mem_nil, or_false,
    Prod.mk.injEq]
  constructor
  · rintro (⟨rfl, found⟩ | ⟨rfl, found⟩ | ⟨⟨⟨type, entries⟩, t⟩, member, found⟩ | ⟨rfl, found⟩)
    · exact selectorViolation?_eq_some_iff.mp found.symm
    · exact wholeRules?_eq_some_iff.mp found.symm
    · have atType := List.mem_zipIdx_iff_getElem?.mp member
      rcases mem_typeChecks_iff.mp found with ⟨rfl, rfl, rfl⟩ | ⟨i, e, aspect, w, atEntry, violates, rfl, rfl⟩
      · exact .emptyType atType
      · exact .entry atType atEntry violates
    · exact descriptionViolation?_eq_some_iff.mp found.symm
  · intro violates
    cases place : p with
    | selection =>
      subst place
      exact Or.inl ⟨rfl, (selectorViolation?_eq_some_iff.mpr violates).symm⟩
    | rules =>
      subst place
      exact Or.inr (Or.inl ⟨rfl, (wholeRules?_eq_some_iff.mpr violates).symm⟩)
    | type t =>
      subst place
      cases violates with
      | @emptyType t type atType =>
        exact Or.inr (Or.inr (Or.inl ⟨((type, []), t), List.mem_zipIdx_iff_getElem?.mpr atType,
          mem_typeChecks_iff.mpr (Or.inl ⟨rfl, rfl, rfl⟩)⟩))
    | entry t i aspect =>
      subst place
      cases violates with
      | @entry t i type entries e aspect w atType atEntry violates =>
        exact Or.inr (Or.inr (Or.inl ⟨((type, entries), t), List.mem_zipIdx_iff_getElem?.mpr atType,
          mem_typeChecks_iff.mpr (Or.inr ⟨i, e, aspect, w, atEntry, violates, rfl, rfl⟩)⟩))
    | description =>
      subst place
      exact Or.inr (Or.inr (Or.inr ⟨rfl, (descriptionViolation?_eq_some_iff.mpr violates).symm⟩))

theorem isValid_iff : d.IsValid ↔ ∀ p v, ¬d.Violates p v := by
  constructor
  · rintro ⟨⟨s, selects, way⟩, ⟨m, given, nonempty, each⟩, text, described⟩ p v violates
    have entries : d.entries = m.entries := by rw [Document.entries, given, Option.getD_some]
    cases violates with
    | noSelector noneIncluded noneExcluded =>
      simp [noneIncluded, noneExcluded] at way
    | twoSelectors included excluded =>
      simp [included, excluded] at way
    | emptyIncluded included noneExcluded empty =>
      obtain rfl : _ = s := by simpa [included, noneExcluded] using way
      exact empty selects
    | emptyExcluded noneIncluded excluded empty =>
      obtain rfl : _ = s := by simpa [noneIncluded, excluded] using way
      exact empty selects
    | noRules absent => simp [absent] at given
    | emptyRules other empty =>
      obtain rfl := Option.some.inj (given.symm.trans other)
      exact nonempty empty
    | emptyType atType =>
      rw [entries] at atType
      exact (each _ _ (List.mem_of_getElem? atType)).1 rfl
    | entry atType atEntry breaks =>
      rw [entries] at atType
      have valid := (each _ _ (List.mem_of_getElem? atType)).2 _ (List.mem_of_getElem? atEntry)
      exact Entry.isValid_iff.mp valid _ _ breaks
    | noDescription absent => simp [absent] at described
  · intro unbroken
    refine ⟨?_, ?_, ?_⟩
    · cases included : d.included <;> cases excluded : d.excluded
      case none.none => exact absurd (.noSelector included excluded) (unbroken _ _)
      case none.some s =>
        have selects : s.Selects := not_not.mp fun empty => unbroken _ _ (.emptyExcluded included excluded empty)
        exact ⟨s, selects, Or.inr ⟨rfl, rfl⟩⟩
      case some.none s =>
        have selects : s.Selects := not_not.mp fun empty => unbroken _ _ (.emptyIncluded included excluded empty)
        exact ⟨s, selects, Or.inl ⟨rfl, rfl⟩⟩
      case some.some s t => exact absurd (.twoSelectors included excluded) (unbroken _ _)
    · obtain ⟨m, given⟩ := Option.ne_none_iff_exists'.mp fun absent => unbroken _ _ (.noRules absent)
      have entries : d.entries = m.entries := by rw [Document.entries, given, Option.getD_some]
      refine ⟨m, given, fun empty => unbroken _ _ (.emptyRules given empty), fun type list member => ?_⟩
      obtain ⟨t, atType⟩ := List.mem_iff_getElem?.mp member
      rw [← entries] at atType
      refine ⟨?_, fun e inList => Entry.isValid_iff.mpr fun aspect w breaks => ?_⟩
      · rintro rfl
        exact unbroken _ _ (.emptyType atType)
      · obtain ⟨i, atEntry⟩ := List.mem_iff_getElem?.mp inList
        exact unbroken _ _ (.entry atType atEntry breaks)
    · exact Option.ne_none_iff_exists'.mp fun absent => unbroken _ _ (.noDescription absent)

end Places

/-- The message of a check is missing exactly if the document is valid, else it is that of the first violation. A
message about an entry names its type and its index, counted from one. -/
theorem check_message (d : Document) :
    (d.violation?.map Violation.message = none ↔ d.IsValid) ∧
      (∀ text, d.violation?.map Violation.message = some text ↔
        ∃ p v, d.Violates p v ∧ (∀ q w, q.Before p → ¬d.Violates q w) ∧ v.message = text) ∧
      ∀ t i aspect v, d.Violates (.entry t i aspect) v →
        ∃ type entries e w, d.entries[t]? = some (type, entries) ∧ entries[i]? = some e ∧
          e.Violates d.excluded.isNone aspect w ∧
          v.message =
            "Type rule 'for: \x7b " ++ type ++ ": [...] \x7d'" ++ s!" entry at index [{i + 1}] " ++ w.text := by
  refine ⟨?_, fun text => ?_, ?_⟩
  · rw [Option.map_eq_none_iff, violation?_eq, firstFound_eq_none_iff, isValid_iff]
    simp only [mem_checks_iff]
  · have first : ∀ v, d.violation? = some v ↔ ∃ p, d.Violates p v ∧ ∀ q w, q.Before p → ¬d.Violates q w := by
      intro v
      have asymm : ∀ p q : Place, p.Before q → ¬q.Before p := fun p q => List.lt_asymm
      rw [violation?_eq, firstFound_eq_some_iff asymm d.checks_sorted]
      simp only [mem_checks_iff]
    rw [Option.map_eq_some_iff]
    simp only [first]
    constructor
    · rintro ⟨v, ⟨p, violates, earlier⟩, rfl⟩
      exact ⟨p, v, violates, earlier, rfl⟩
    · rintro ⟨p, v, violates, earlier, rfl⟩
      exact ⟨v, ⟨p, violates, earlier⟩, rfl⟩
  · intro t i aspect v violates
    cases violates with
    | entry atType atEntry breaks => exact ⟨_, _, _, _, atType, atEntry, breaks, rfl⟩

/-- A document about all but a group, which is not described. The second entry of its second type grants in order but
contains a foreign key. -/
def exampleUndescribed : Document :=
  { description := none, scope := none, included := none
    excluded := some { username := .null, group := .text "guests", urn := .null }
    rules := some {
      entries :=
        [("book", [{ allow := .null, deny := .text "read", matchers := ⟨none, none, none, none⟩ }]),
          ("lamp", [{ allow := .null, deny := .text "dim", matchers := ⟨none, none, none, none⟩ },
            { allow := .null, deny := .list [.text "dim", .text "light"],
              matchers := { regex := none, contains := some [("tags", .text "hall"), ("room", .text "hall")],
                            equals := some [], subset := none } }])]
      distinct := by decide } }

theorem undescribed_check_message :
    ¬exampleUndescribed.IsValid ∧ ∃ p v, exampleUndescribed.Violates p v ∧
      (∀ q w, q.Before p → ¬exampleUndescribed.Violates q w) ∧
      v.message = "Type rule 'for: \x7b lamp: [...] \x7d' entry at index [2] " ++
        "Section 'contains:' can only be applied to: 'tags'" := by
  obtain ⟨valid, first, _⟩ := check_message exampleUndescribed
  have told : exampleUndescribed.violation?.map Violation.message = some _ := rfl
  refine ⟨fun isValid => ?_, (first _).mp told⟩
  rw [← valid, told] at isValid
  cases isValid

end Document

end AccessPolicy
