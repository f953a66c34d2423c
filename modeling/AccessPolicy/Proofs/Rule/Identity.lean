import AccessPolicy.Proofs.Value.Hashing
import AccessPolicy.Rule.Builder
import AccessPolicy.Rule.Collected

namespace AccessPolicy

/-- Whether two rules' matchers are the same data. -/
def Matchers.same (m n : Matchers) : Bool :=
  RuleBuilder.sameProperties m.regex n.regex && RuleBuilder.sameProperties m.contains n.contains
    && RuleBuilder.sameProperties m.equals n.equals && RuleBuilder.sameProperties m.subset n.subset

/-- Whether two sections, if both are there, are commensurable. -/
def CommensurableSections : Option Properties → Option Properties → Prop
  | some p, some q => p.toValue.Commensurable q.toValue
  | _, _ => True

/-- Whether freezing keeps matchers apart, section by section. -/
structure Matchers.Commensurable (m n : Matchers) : Prop where
  regex : CommensurableSections m.regex n.regex
  contains : CommensurableSections m.contains n.contains
  equals : CommensurableSections m.equals n.equals
  subset : CommensurableSections m.subset n.subset

/-- Whether the data of all sections is sound. -/
structure Matchers.IsSound (m : Matchers) : Prop where
  regex : ∀ p ∈ m.regex, p.toValue.IsSound
  contains : ∀ p ∈ m.contains, p.toValue.IsSound
  equals : ∀ p ∈ m.equals, p.toValue.IsSound
  subset : ∀ p ∈ m.subset, p.toValue.IsSound

theorem Matchers.freeze_eq_ok_iff {m : Matchers} {frozen : FrozenMatchers} :
    m.freeze = .ok frozen ↔ freezeSection m.regex = .ok frozen.regex ∧ freezeSection m.contains = .ok frozen.contains ∧
      freezeSection m.equals = .ok frozen.equals ∧ freezeSection m.subset = .ok frozen.subset := by
  obtain ⟨regex, contains, equals, subset⟩ := frozen
  unfold Matchers.freeze
  cases freezeSection m.regex with
  | error fault => simp [bind, Except.bind]
  | ok a =>
    cases freezeSection m.contains with
    | error fault => simp [bind, Except.bind]
    | ok b =>
      cases freezeSection m.equals with
      | error fault => simp [bind, Except.bind]
      | ok c => cases freezeSection m.subset <;> simp [bind, Except.bind, pure, Except.pure]

/-- The frozen form of a section is a tuple. -/
theorem freezeSection_cases {section? : Option Properties} {frozen : Option Value}
    (taken : freezeSection section? = .ok frozen) :
    (section? = none ∧ frozen = none) ∨
      ∃ p a items, section? = some p ∧ frozen = some a ∧ p.toValue.freeze = .ok a ∧ a = .tuple items := by
  cases section? with
  | none => exact Or.inl ⟨rfl, (Except.ok.inj taken).symm⟩
  | some p =>
    cases tried : p.toValue.freeze with
    | error fault => rw [freezeSection, tried] at taken; cases taken
    | ok a =>
      rw [freezeSection, tried] at taken
      obtain ⟨_, sorted, _, _, tuple⟩ := Value.freeze_map_iff.mp tried
      exact Or.inr ⟨p, a, _, rfl, (Except.ok.inj taken).symm, tried, tuple⟩

theorem sameSection_iff {o o' : Option Properties} {f f' : Option Value} (left : freezeSection o = .ok f)
    (right : freezeSection o' = .ok f') (commensurable : CommensurableSections o o') :
    sameSection f f' = true ↔ RuleBuilder.sameProperties o o' = true := by
  obtain ⟨rfl, rfl⟩ | ⟨p, a, _, rfl, rfl, taken, _⟩ := freezeSection_cases left <;>
    obtain ⟨rfl, rfl⟩ | ⟨q, b, _, rfl, rfl, taken', _⟩ := freezeSection_cases right
  · rfl
  · rfl
  · rfl
  · exact Value.same_freeze_iff commensurable taken taken'

/-- Null stands for a section that is missing. -/
theorem same_getD_null {o o' : Option Properties} {f f' : Option Value} (left : freezeSection o = .ok f)
    (right : freezeSection o' = .ok f') : (f.getD .null).same (f'.getD .null) = sameSection f f' := by
  obtain ⟨rfl, rfl⟩ | ⟨p, a, _, rfl, rfl, _, rfl⟩ := freezeSection_cases left <;>
    obtain ⟨rfl, rfl⟩ | ⟨q, b, _, rfl, rfl, _, rfl⟩ := freezeSection_cases right <;>
    simp [sameSection, Value.same, Value.sameAtom, Value.worth?]

theorem isFirm_getD_null {o : Option Properties} {f : Option Value} (taken : freezeSection o = .ok f)
    (sound : ∀ p ∈ o, p.toValue.IsSound) : (f.getD .null).IsFirm := by
  obtain ⟨rfl, rfl⟩ | ⟨p, a, _, rfl, rfl, frozen, _⟩ := freezeSection_cases taken
  · simp [Value.IsFirm]
  · exact Value.isFirm_of_freeze (sound p rfl) frozen

namespace Rule

/-- Whether two rules agree in all but their matchers. -/
structure Agrees (r s : Rule) : Prop where
  resourceType : r.resourceType = s.resourceType
  environment : r.environment.same s.environment = true
  source : r.source = s.source
  description : r.description = s.description
  inclusive : r.inclusive = s.inclusive
  principal : r.principal = s.principal
  allow : (Value.set r.allow).same (.set s.allow) = true
  deny : (Value.set r.deny).same (.set s.deny) = true

/-- Whether a rule's actions are sets, and its matchers sound. -/
structure IsSound (r : Rule) : Prop where
  allow : (Value.set r.allow).IsSound
  deny : (Value.set r.deny).IsSound
  matchers : r.matchers.IsSound

/-- A text that may be missing, as data. -/
def optionalText : Option String → Value
  | none => .null
  | some s => .text s

/-- The name of the principal if it is of a kind, as data. -/
def nameAs (r : Rule) (kind : PrincipalKind) : Value :=
  if r.principal.kind = kind then .text r.principal.name else .null

/-- A scope as data. -/
def scopeKey (e : Environment) : Value :=
  .tuple [.text e.key, .text e.value, .bool e.criterion.isPattern]

/-- All that a rule is told by, as one piece of data. -/
def key (r : Rule) : Value :=
  .tuple [.text r.resourceType, scopeKey r.environment, .text r.source, optionalText r.description, .bool r.inclusive,
    r.nameAs .username, r.nameAs .group, r.nameAs .urn, .set r.allow, .set r.deny, r.frozen.regex.getD .null,
    r.frozen.contains.getD .null, r.frozen.equals.getD .null, r.frozen.subset.getD .null]

/-- The hash of a rule is that of its key. -/
def hash? {Hash : Type} (h : Hashing Hash) (r : Rule) : Option Hash := r.key.hash? h

theorem same_optionalText (o o' : Option String) : (optionalText o).same (optionalText o') = (o == o') := by
  cases o <;> cases o' <;> simp [optionalText, Value.same, Value.sameAtom, Value.worth?]

theorem same_scopeKey (e f : Environment) : (scopeKey e).same (scopeKey f) = e.same f := by
  simp only [scopeKey, Value.same, Value.sameAll, Value.sameAtom, Value.worth?, Environment.same]
  cases e.criterion.isPattern <;> cases f.criterion.isPattern <;> simp

theorem same_names (r s : Rule) :
    ((r.nameAs .username).same (s.nameAs .username) && (r.nameAs .group).same (s.nameAs .group)
      && (r.nameAs .urn).same (s.nameAs .urn)) = (r.principal == s.principal) := by
  unfold nameAs
  obtain ⟨kind, name⟩ := r.principal
  obtain ⟨kind', name'⟩ := s.principal
  cases kind <;> cases kind' <;> simp [Value.same, Value.sameAtom, Value.worth?]

/-- Rules are the same exactly if their keys are. -/
theorem same_key (r s : Rule) : r.key.same s.key = r.same s := by
  obtain ⟨regex, contains, equals, subset⟩ := Matchers.freeze_eq_ok_iff.mp r.isFrozen
  obtain ⟨regex', contains', equals', subset'⟩ := Matchers.freeze_eq_ok_iff.mp s.isFrozen
  rw [key, key, Value.same]
  simp only [Value.sameAll, Value.same_text, Value.same_bool, same_scopeKey, same_optionalText, same_getD_null regex regex',
    same_getD_null contains contains', same_getD_null equals equals', same_getD_null subset subset']
  rw [same, FrozenMatchers.same, ← same_names]
  simp only [Bool.and_assoc, Bool.and_true]

/-- Rules that agree in all but their matchers are the same exactly if their frozen matchers are. -/
theorem same_iff_of_agrees {r s : Rule} (agree : r.Agrees s) : r.same s = true ↔ r.frozen.same s.frozen = true := by
  simp [same, agree.resourceType, agree.environment, agree.source, agree.description, agree.inclusive,
    agree.principal, agree.allow, agree.deny]

theorem same_frozen_iff {r s : Rule} (commensurable : r.matchers.Commensurable s.matchers) :
    r.frozen.same s.frozen = true ↔ r.matchers.same s.matchers = true := by
  obtain ⟨regex, contains, equals, subset⟩ := Matchers.freeze_eq_ok_iff.mp r.isFrozen
  obtain ⟨regex', contains', equals', subset'⟩ := Matchers.freeze_eq_ok_iff.mp s.isFrozen
  simp only [FrozenMatchers.same, Matchers.same, Bool.and_eq_true, sameSection_iff regex regex' commensurable.regex,
    sameSection_iff contains contains' commensurable.contains, sameSection_iff equals equals' commensurable.equals,
    sameSection_iff subset subset' commensurable.subset]

theorem isFirm_optionalText (o : Option String) : (optionalText o).IsFirm := by
  cases o <;> simp [optionalText, Value.IsFirm]

theorem isFirm_nameAs (r : Rule) (kind : PrincipalKind) : (r.nameAs kind).IsFirm := by
  unfold nameAs
  split <;> simp [Value.IsFirm]

theorem isFirm_key {r : Rule} (sound : r.IsSound) : r.key.IsFirm := by
  obtain ⟨regex, contains, equals, subset⟩ := Matchers.freeze_eq_ok_iff.mp r.isFrozen
  have allow := sound.allow
  have deny := sound.deny
  rw [Value.IsSound] at allow deny
  simp only [key, scopeKey, Value.IsFirm, Value.AllFirm, and_true, true_and]
  exact ⟨isFirm_optionalText _, isFirm_nameAs r _, isFirm_nameAs r _, isFirm_nameAs r _, allow, deny,
    isFirm_getD_null regex sound.matchers.regex, isFirm_getD_null contains sound.matchers.contains,
    isFirm_getD_null equals sound.matchers.equals, isFirm_getD_null subset sound.matchers.subset⟩

/-- A sound rule has a hash, and every rule that is the same as it has the same hash. -/
theorem hash_of_same {Hash : Type} (h : Hashing Hash) {r s : Rule} (sound : r.IsSound) (alike : r.same s = true) :
    ∃ n, r.hash? h = some n ∧ s.hash? h = some n :=
  Value.hash_of_same h (isFirm_key sound) ((same_key r s).trans alike)

theorem same_refl (r : Rule) : r.same r = true := by
  rw [← same_key]
  exact Value.same_refl r.key

/-- Rules that are the same have the same matchers, if these are commensurable. -/
theorem same_matchers_of_same {r s : Rule} (commensurable : r.matchers.Commensurable s.matchers)
    (alike : r.same s = true) : r.matchers.same s.matchers = true := by
  rw [same, Bool.and_eq_true] at alike
  exact (same_frozen_iff commensurable).mp alike.2

end Rule

namespace RuleSet

theorem mem_insert_of_mem {s : RuleSet} {r kept : Rule} (member : kept ∈ s.rules) : kept ∈ (s.insert r).rules := by
  unfold insert
  split
  · exact member
  · exact List.mem_append_left _ member

theorem mem_insertAll_of_mem {s : RuleSet} {rules : List Rule} {kept : Rule} (member : kept ∈ s.rules) :
    kept ∈ (s.insertAll rules).rules := by
  induction rules generalizing s with
  | nil => exact member
  | cons r rest ih => exact ih (mem_insert_of_mem member)

theorem mem_of_mem_insert {s : RuleSet} {r t : Rule} (member : t ∈ (s.insert r).rules) : t ∈ s.rules ∨ t = r := by
  unfold insert at member
  split at member
  · exact Or.inl member
  · simpa using member

theorem mem_of_mem_insertAll {s : RuleSet} {rules : List Rule} {t : Rule} (member : t ∈ (s.insertAll rules).rules) :
    t ∈ s.rules ∨ t ∈ rules := by
  induction rules generalizing s with
  | nil => exact Or.inl member
  | cons r rest ih =>
    rcases @ih (s.insert r) member with inFirst | inRest
    · rcases mem_of_mem_insert inFirst with old | rfl
      · exact Or.inl old
      · exact Or.inr (List.mem_cons_self ..)
    · exact Or.inr (List.mem_cons_of_mem r inRest)

/-- The rules of several sets are rules of one of them. -/
theorem exists_of_mem_merge {sets : List RuleSet} {t : Rule} (member : t ∈ (merge sets).rules) :
    ∃ s ∈ sets, t ∈ s.rules := by
  have grown : ∀ s : RuleSet, t ∈ (sets.foldl union s).rules → t ∈ s.rules ∨ ∃ u ∈ sets, t ∈ u.rules := by
    clear member
    intro s member
    induction sets generalizing s with
    | nil => exact Or.inl member
    | cons first rest ih =>
      rcases ih (s.union first) member with inFirst | ⟨u, inRest, inU⟩
      · rcases mem_of_mem_insertAll inFirst with old | inFirst
        · exact Or.inl old
        · exact Or.inr ⟨first, List.mem_cons_self .., inFirst⟩
      · exact Or.inr ⟨u, List.mem_cons_of_mem first inRest, inU⟩
  rcases grown empty member with none | found
  · cases none
  · exact found

theorem exists_same_of_insert (s : RuleSet) (r : Rule) : ∃ kept ∈ (s.insert r).rules, kept.same r = true := by
  unfold insert
  split
  · simpa [contains] using ‹s.contains r = true›
  · exact ⟨r, by simp, r.same_refl⟩

/-- Of each rule that is put into a set, the set has one that is the same. -/
theorem exists_same_of_insertAll {s : RuleSet} {rules : List Rule} {r : Rule} (member : r ∈ rules) :
    ∃ kept ∈ (s.insertAll rules).rules, kept.same r = true := by
  induction rules generalizing s with
  | nil => cases member
  | cons first rest ih =>
    rcases List.mem_cons.mp member with rfl | inRest
    · obtain ⟨kept, inSet, alike⟩ := exists_same_of_insert s r
      have stays : kept ∈ ((s.insert r).insertAll rest).rules := mem_insertAll_of_mem inSet
      exact ⟨kept, stays, alike⟩
    · exact ih inRest

theorem mem_merge_of_mem {s : RuleSet} {sets : List RuleSet} {kept : Rule} (member : kept ∈ s.rules) :
    kept ∈ (sets.foldl union s).rules := by
  induction sets generalizing s with
  | nil => exact member
  | cons t rest ih => exact ih (mem_insertAll_of_mem member)

/-- Of each rule of sets that are merged, the whole has one that is the same. -/
theorem exists_same_of_merge {sets : List RuleSet} {t : RuleSet} {r : Rule} (inSets : t ∈ sets) (member : r ∈ t.rules) :
    ∃ kept ∈ (merge sets).rules, kept.same r = true := by
  obtain ⟨before, after, rfl⟩ := List.append_of_mem inSets
  obtain ⟨kept, inUnion, alike⟩ := exists_same_of_insertAll (s := before.foldl union empty) member
  refine ⟨kept, ?_, alike⟩
  rw [merge, List.foldl_append, List.foldl_cons]
  exact mem_merge_of_mem inUnion

end RuleSet

/-- Rules that agree in all but their matchers are the same exactly if their matchers are the same data, if these are
commensurable. Rules that are the same have one hash. A set made of rules, or merged of sets, keeps for each rule one
that is the same, and has the same matchers if they are commensurable. -/
theorem Rule.told_by_matchers {Hash : Type} (h : Hashing Hash) :
    (∀ r s : Rule, r.Agrees s → r.matchers.Commensurable s.matchers →
      (r.same s = true ↔ r.matchers.same s.matchers = true)) ∧
    (∀ r s : Rule, r.IsSound → r.same s = true → ∃ n, r.hash? h = some n ∧ s.hash? h = some n) ∧
    (∀ rules, ∀ r ∈ rules, ∃ kept ∈ (RuleSet.ofList rules).rules, kept.same r = true ∧
      (kept.matchers.Commensurable r.matchers → kept.matchers.same r.matchers = true)) ∧
    ∀ sets, ∀ t ∈ sets, ∀ r ∈ t.rules, ∃ kept ∈ (RuleSet.merge sets).rules, kept.same r = true ∧
      (kept.matchers.Commensurable r.matchers → kept.matchers.same r.matchers = true) := by
  refine ⟨fun r s agree commensurable => ?_, fun r s sound alike => hash_of_same h sound alike,
    fun rules r member => ?_, fun sets t inSets r member => ?_⟩
  · rw [same_iff_of_agrees agree, same_frozen_iff commensurable]
  · obtain ⟨kept, inSet, alike⟩ := RuleSet.exists_same_of_insertAll member
    exact ⟨kept, inSet, alike, fun commensurable => same_matchers_of_same commensurable alike⟩
  · obtain ⟨kept, inSet, alike⟩ := RuleSet.exists_same_of_merge inSets member
    exact ⟨kept, inSet, alike, fun commensurable => same_matchers_of_same commensurable alike⟩

theorem freeze_parameter {v a : Value} (frozen : v.freeze = .ok a) :
    (Properties.toValue [("a", v)]).freeze = .ok (.tuple [.tuple [.text "a", a]]) := by
  have key : Value.keyText (.text "a") = .ok "a" := by decide +kernel
  rw [Properties.toValue, List.map_singleton, Value.freeze_map_singleton key frozen]
  simp [Value.freeze, Value.freezeAll, Value.enter_none, frozen, bind, Except.bind, pure, Except.pure]

/-- A rule for one user about resources with some data as their only property. -/
def propertyRule (v a : Value) (frozen : v.freeze = .ok a) : Rule where
  resourceType := "job"
  environment := ⟨"project", Attribute.standardBase, .literal "ops"⟩
  source := "s[type:job][rule:1]"
  description := some "d"
  inclusive := true
  principal := ⟨.username, "u"⟩
  allow := [.text "read"]
  deny := []
  matchers := ⟨none, none, some [("a", v)], none⟩
  frozen := ⟨none, none, some (.tuple [.tuple [.text "a", a]]), none⟩
  isFrozen := Matchers.freeze_eq_ok_iff.mpr
    ⟨rfl, rfl, by simp [freezeSection, freeze_parameter frozen, Except.map], rfl⟩

theorem propertyRule_agrees {v w a b : Value} (frozen : v.freeze = .ok a) (frozen' : w.freeze = .ok b) :
    (propertyRule v a frozen).Agrees (propertyRule w b frozen') :=
  ⟨rfl, by simp [propertyRule, Environment.same], rfl, rfl, rfl, rfl, Value.same_refl _, Value.same_refl _⟩

theorem propertyRule_isSound {v a : Value} (frozen : v.freeze = .ok a) (sound : v.IsSound) :
    (propertyRule v a frozen).IsSound := by
  refine ⟨?_, ?_, ⟨by simp [propertyRule], by simp [propertyRule], ?_, by simp [propertyRule]⟩⟩
  · simp [propertyRule, Value.IsSound, Value.areMembers, Value.isMember]
  · simp [propertyRule, Value.IsSound, Value.areMembers]
  · simp [propertyRule, Properties.toValue, Value.IsSound, Value.EntriesSound, sound]

theorem propertyRule_commensurable {v w a b : Value} (frozen : v.freeze = .ok a) (frozen' : w.freeze = .ok b)
    (commensurable : v.Commensurable w) :
    (propertyRule v a frozen).matchers.Commensurable (propertyRule w b frozen').matchers := by
  refine ⟨trivial, trivial, Value.commensurable_map_iff.mpr ?_, trivial⟩
  simp [Value.HasDistinctTexts, Value.same_text, Value.plain, commensurable]

/-- Some entries of a map. -/
def listed : Value := .map [(.text "c", .list [.null, .int 1]), (.text "b", .set [.int 1, .text "x"])]

/-- The same entries in another order, and a set with its members in another order. -/
def permuted : Value := .map [(.text "b", .set [.text "x", .bool true]), (.text "c", .list [.null, .int 1])]

/-- The frozen form of the entries. -/
def listedFrozen : Value :=
  .tuple [.tuple [.text "b", .set [.int 1, .text "x"]], .tuple [.text "c", .tuple [.null, .int 1]]]

/-- The frozen form of the entries in the other order. -/
def permutedFrozen : Value :=
  .tuple [.tuple [.text "b", .set [.text "x", .bool true]], .tuple [.text "c", .tuple [.null, .int 1]]]

/-- A rule about the entries. -/
def listedRule : Rule := propertyRule listed listedFrozen rfl

/-- A rule about the entries in the other order. -/
def permutedRule : Rule := propertyRule permuted permutedFrozen rfl

/-- Hashes that count: atoms by their worth or length, sequences as digits, sets by their size. -/
def Hashing.counting : Hashing Nat where
  ofAtom
    | .text s => s.length
    | .number (.fraction n d) => n.natAbs + d
    | _ => 0
  ofSequence := List.foldl (fun done n => 31 * done + n) 7
  ofMembers := Multiset.card

theorem permuted_told_by_matchers :
    listedRule.Agrees permutedRule ∧ listedRule.matchers.Commensurable permutedRule.matchers ∧ listedRule.IsSound ∧
      listedRule.matchers.same permutedRule.matchers = true ∧ listedRule.same permutedRule = true ∧
      (∃ n, listedRule.hash? .counting = some n ∧ permutedRule.hash? .counting = some n) ∧
      (∃ kept ∈ (RuleSet.ofList [listedRule, permutedRule]).rules, kept.same permutedRule = true) ∧
      ∃ kept ∈ (RuleSet.merge [.ofList [listedRule], .ofList [permutedRule]]).rules, kept.same permutedRule = true := by
  have agree : listedRule.Agrees permutedRule := propertyRule_agrees ..
  have commensurable : listedRule.matchers.Commensurable permutedRule.matchers := by
    have items : Value.Commensurable (.list [.null, .int 1]) (.list [.null, .int 1]) := by
      simp [Value.Commensurable, Value.AllCommensurable]
    have members : Value.Commensurable (.set [.int 1, .text "x"]) (.set [.text "x", .bool true]) := by
      simp [Value.Commensurable, Value.areMembers, Value.isMember]
    refine propertyRule_commensurable rfl rfl (Value.commensurable_map_iff.mpr ?_)
    simp [Value.HasDistinctTexts, Value.same_text, Value.plain, items, members]
  have sound : listedRule.IsSound := by
    refine propertyRule_isSound rfl ?_
    simp [listed, Value.IsSound, Value.EntriesSound, Value.AllSound, Value.areMembers, Value.isMember, Value.same,
      Value.sameAtom, Value.worth?]
  have matchers : listedRule.matchers.same permutedRule.matchers = true := by decide +kernel
  obtain ⟨told, hashed, kept, merged⟩ := Rule.told_by_matchers Hashing.counting
  have alike := (told _ _ agree commensurable).mpr matchers
  obtain ⟨r, inSet, same, _⟩ := kept [listedRule, permutedRule] permutedRule (by simp)
  obtain ⟨s, inWhole, same', _⟩ := merged [.ofList [listedRule], .ofList [permutedRule]] (.ofList [permutedRule])
    (by simp) permutedRule (by simp [RuleSet.ofList, RuleSet.insertAll, RuleSet.insert, RuleSet.contains, RuleSet.empty])
  exact ⟨agree, commensurable, sound, matchers, alike, hashed _ _ sound alike, ⟨r, inSet, same⟩, s, inWhole, same'⟩

/-- A rule about a map of one entry. -/
def entryRule : Rule := propertyRule (.map [(.text "b", .int 1)]) (.tuple [.tuple [.text "b", .int 1]]) rfl

/-- A rule about the list of the one pair. -/
def pairRule : Rule := propertyRule (.list [.list [.text "b", .int 1]]) (.tuple [.tuple [.text "b", .int 1]]) rfl

/-- Rules that agree in all but their matchers, and whose matchers differ, but one of which is left out of the set of
both. -/
theorem entry_not_told_from_pair :
    entryRule.Agrees pairRule ∧ entryRule.matchers.same pairRule.matchers = false ∧ entryRule.same pairRule = true ∧
      (RuleSet.ofList [entryRule, pairRule]).rules = [entryRule] := by
  have agree : entryRule.Agrees pairRule := propertyRule_agrees ..
  have alike : entryRule.same pairRule = true := by
    rw [Rule.same_iff_of_agrees agree]
    decide +kernel
  refine ⟨agree, by decide +kernel, alike, ?_⟩
  simp [RuleSet.ofList, RuleSet.insertAll, RuleSet.insert, RuleSet.contains, RuleSet.empty, alike]

end AccessPolicy
