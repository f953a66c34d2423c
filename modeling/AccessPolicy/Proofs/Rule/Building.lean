import AccessPolicy.Proofs.Rule.SetLaws
import AccessPolicy.Proofs.Value.Freezable

namespace AccessPolicy

namespace Matchers

/-- The sections that are there. -/
def given (m : Matchers) : List Properties :=
  m.regex.toList ++ m.contains.toList ++ m.equals.toList ++ m.subset.toList

/-- Whether the data of each section is whole. -/
def IsWhole (m : Matchers) : Prop := ∀ p ∈ m.given, p.toValue.IsWhole

/-- Whether a map is found in one of the sections. -/
def Holds (m : Matchers) (entries : List (Value × Value)) : Prop := ∃ p ∈ m.given, p.toValue.Holds (.map entries)

/-- Whether no section is deeper than calls may be nested. One that is not there is frozen as null. -/
def Fits (m : Matchers) (calls : Option Nat) : Prop :=
  ∀ section? ∈ [m.regex, m.contains, m.equals, m.subset], (section?.elim .null Properties.toValue).Fits calls

theorem exists_freezeSection_iff {section? : Option Properties} :
    (∃ frozen, freezeSection section? = .ok frozen) ↔ ∀ p ∈ section?.toList, ∃ a, p.toValue.freeze = .ok a := by
  cases section? with
  | none => simp [freezeSection, Value.enter_none, Except.map]
  | some p => cases tried : p.toValue.freeze <;> simp [freezeSection, tried, Except.map]

theorem exists_freeze_iff_of_given {m : Matchers} :
    (∃ frozen, m.freeze = .ok frozen) ↔ ∀ p ∈ m.given, ∃ a, p.toValue.freeze = .ok a := by
  simp only [given, List.forall_mem_append, ← exists_freezeSection_iff, and_assoc]
  constructor
  · rintro ⟨frozen, taken⟩
    obtain ⟨regex, contains, equals, subset⟩ := Matchers.freeze_eq_ok_iff.mp taken
    exact ⟨⟨_, regex⟩, ⟨_, contains⟩, ⟨_, equals⟩, _, subset⟩
  · rintro ⟨⟨_, regex⟩, ⟨_, contains⟩, ⟨_, equals⟩, _, subset⟩
    exact ⟨⟨_, _, _, _⟩, Matchers.freeze_eq_ok_iff.mpr ⟨regex, contains, equals, subset⟩⟩

/-- Matchers that are frozen fit in the calls that may be nested. Those that are not do not fit, or have a map in them with
the fault that is reported. -/
theorem meets_freeze (m : Matchers) (calls : Option Nat) : Meets (fun _ => m.Fits calls)
    (fun fault => fault = .tooDeep ∧ ¬m.Fits calls ∨ ∃ entries, m.Holds entries ∧ Value.HasFault entries fault)
    (m.freeze calls) := by
  have each {section? : Option Properties} (among : section? ∈ [m.regex, m.contains, m.equals, m.subset])
      (within : ∀ p ∈ section?, p ∈ m.given) : Meets (fun _ => (section?.elim .null Properties.toValue).Fits calls)
      (fun fault => fault = .tooDeep ∧ ¬m.Fits calls ∨ ∃ entries, m.Holds entries ∧ Value.HasFault entries fault)
      (freezeSection section? calls) := by
    cases section? with
    | none =>
      have entering := Value.meets_enter .null calls
      rw [freezeSection]
      cases entered : Value.enter calls with
      | error fault =>
        obtain ⟨deep, deeper⟩ := entering.of_error entered
        exact Or.inl ⟨deep, fun fits => deeper (fits _ among)⟩
      | ok left => exact (Value.fits_iff_of_enter entered).mpr fun n _ => by simp [Value.height]
    | some p =>
      have settled := p.toValue.isSettled calls
      rw [freezeSection]
      cases tried : p.toValue.freeze calls with
      | ok a => exact settled.of_ok tried
      | error fault =>
        obtain ⟨deep, deeper⟩ | ⟨entries, holds, has⟩ := settled.of_error tried
        · exact Or.inl ⟨deep, fun fits => deeper (fits _ among)⟩
        · exact Or.inr ⟨entries, ⟨p, within p rfl, holds⟩, has⟩
  unfold Matchers.freeze
  refine (each (by simp) ?_).bind fun _ regex => (each (by simp) ?_).bind fun _ contains =>
    (each (by simp) ?_).bind fun _ equals => (each (by simp) ?_).bind fun _ subset => meets_pure ?_
  pick_goal 5
  · simpa [Fits] using ⟨regex, contains, equals, subset⟩
  all_goals exact fun p there => by simp [given, Option.mem_def.mp there]

/-- Matchers can be frozen exactly if they fit in the calls that may be nested and no map in them has a fault. -/
theorem exists_freeze_iff {m : Matchers} {calls : Option Nat} : (∃ frozen, m.freeze calls = .ok frozen) ↔
    m.Fits calls ∧ ∀ entries, m.Holds entries → ∀ fault, ¬Value.HasFault entries fault := by
  have settled := m.meets_freeze calls
  constructor
  · rintro ⟨frozen, taken⟩
    refine ⟨settled.of_ok taken, ?_⟩
    rintro entries ⟨p, member, holds⟩
    have each := exists_freeze_iff_of_given.mp ⟨frozen, Matchers.freeze_of_calls taken⟩
    exact (Value.exists_freeze_iff.mp (each p member)).2 entries holds
  · rintro ⟨fits, none⟩
    cases tried : m.freeze calls with
    | ok frozen => exact ⟨frozen, rfl⟩
    | error fault =>
      obtain ⟨_, deeper⟩ | ⟨entries, holds, has⟩ := settled.of_error tried
      · exact absurd fits deeper
      · exact absurd has (none entries holds fault)

theorem isSound_of_isWhole {m : Matchers} (whole : m.IsWhole) : m.IsSound := by
  refine ⟨?_, ?_, ?_, ?_⟩ <;> intro p there <;>
    exact Value.isSound_of_isWhole (whole p (by simp [given, Option.mem_def.mp there]))

end Matchers

namespace RuleBuilder

variable {b : RuleBuilder} {principal : Principal} {type : String} {environment : Environment} {calls : Option Nat}

theorem build_eq (bound : b.principals = [principal]) (typed : b.resourceType = some type)
    (placed : b.environment = some environment) : b.build calls = b.finish principal type environment calls := by
  simp [build, bound, typed, placed]

theorem finish_of_frozen {frozen : FrozenMatchers} (isFrozen : b.matchers.freeze calls = .ok frozen)
    (principal : Principal) (type : String) (environment : Environment) :
    b.finish principal type environment calls =
      .ok ⟨type, environment, b.source, b.description, b.inclusive, principal, b.allow, b.deny, b.matchers, frozen,
        Matchers.freeze_of_calls isFrozen⟩ := by
  unfold finish
  split
  · rename_i fault failed
    simp [failed] at isFrozen
  · rename_i other isOther
    obtain rfl : other = frozen := by simpa [isOther] using isFrozen
    rfl

theorem finish_of_fault {fault : Value.FreezeFault} (failed : b.matchers.freeze calls = .error fault)
    (principal : Principal) (type : String) (environment : Environment) :
    b.finish principal type environment calls = .error (.matchers fault) := by
  unfold finish
  split
  · rename_i other isOther
    obtain rfl : other = fault := by simpa [isOther] using failed
    rfl
  · rename_i frozen isFrozen
    simp [isFrozen] at failed

/-- The rule of a builder with one principal leads back to the builder. -/
theorem toBuilder_of_build {r : Rule} (built : b.build calls = .ok r) : r.toBuilder = b := by
  unfold build at built
  split at built
  · rename_i principal bound
    split at built
    · cases built
    · cases built
    · rename_i type environment typed placed
      unfold finish at built
      split at built
      · cases built
      · obtain rfl := Except.ok.inj built
        obtain ⟨_, _, source, description, inclusive, username, group, urn, allow, deny, matchers⟩ := b
        obtain rfl : _ = _ := typed
        obtain rfl : _ = _ := placed
        cases username <;> cases group <;> cases urn <;> simp [principals] at bound <;> subst bound <;> rfl
  · cases built

end RuleBuilder

theorem Rule.isSound_of_toBuilder {r : Rule} (allow : (Value.set r.toBuilder.allow).IsSound)
    (deny : (Value.set r.toBuilder.deny).IsSound) (whole : r.toBuilder.matchers.IsWhole) : r.IsSound := by
  obtain ⟨_, _, _, _, _, ⟨kind, name⟩, _, _, _, _, _⟩ := r
  cases kind <;> exact ⟨allow, deny, Matchers.isSound_of_isWhole whole⟩

/-- A sound rule has a hash that it shares with all rules that are the same. -/
theorem Rule.exists_hash {Hash : Type} (h : Hashing Hash) {r : Rule} (sound : r.IsSound) :
    ∃ n, r.hash? h = some n ∧ ∀ t : Rule, r.same t = true → t.same r = true ∧ t.hash? h = some n := by
  obtain ⟨n, own, _⟩ := hash_of_same h sound r.same_refl
  refine ⟨n, own, fun t alike => ⟨same_symm sound alike, ?_⟩⟩
  obtain ⟨_, first, second⟩ := hash_of_same h sound alike
  rw [second, ← first, own]

/-- A builder with one principal, a type, a scope and whole matchers comes to a rule exactly if its matchers are no deeper
than calls may be nested, none of which are counted where there is no limit, and no map in them has a fault; otherwise it
fails for their depth or by the fault of such a map. The rule is all that the builder is, shares its hash with all rules
that are the same, and is in every set that it is put into. Where the entries of a map cannot be sorted, two of them have
values without an order: those of a key that is no text and of its text as a key, or of two keys that are no numbers.
Conversely a builder with such values in a map fails if these are the only ones under keys with that text, or if the values
under such keys are neither sequences nor maps. Keys that can be written are no fault where all keys of a map are texts, or
none is and one at most is no number. -/
theorem RuleBuilder.builds_iff {Hash : Type} (h : Hashing Hash) {b : RuleBuilder} {principal : Principal}
    {type : String} {environment : Environment} (calls : Option Nat) (bound : b.principals = [principal])
    (typed : b.resourceType = some type) (placed : b.environment = some environment)
    (allow : (Value.set b.allow).IsSound) (deny : (Value.set b.deny).IsSound) (whole : b.matchers.IsWhole) :
    ((∃ r, b.build calls = .ok r) ↔
        b.matchers.Fits calls ∧ ∀ entries, b.matchers.Holds entries → ∀ fault, ¬Value.HasFault entries fault) ∧
      (∀ r, b.build calls = .ok r → r.toBuilder = b ∧
        (∃ n, r.hash? h = some n ∧ ∀ t : Rule, r.same t = true → t.same r = true ∧ t.hash? h = some n) ∧
        ∀ s : RuleSet, (s.insert r).contains r = true) ∧
      (∀ fault, b.build calls = .error fault → fault = .matchers .tooDeep ∧ ¬b.matchers.Fits calls ∨
        ∃ cause entries, fault = .matchers cause ∧ b.matchers.Holds entries ∧ Value.HasFault entries cause) ∧
      ∀ entries, b.matchers.Holds entries →
        (Value.HasFault entries .unordered → ∃ e ∈ entries, ∃ f ∈ entries, Value.Clash e f ∧ (∀ s, e.1 ≠ .text s) ∧
          (f.1 = .text e.1.plain ∨ e.1.IsNan ∧ f.1.IsNan)) ∧
        (∀ e ∈ entries, ∀ f ∈ entries, Value.Clash e f →
          ((∀ g ∈ entries, g.1.plain = e.1.plain → g = e ∨ g = f) ∨
            ∀ g ∈ entries, g.1.plain = e.1.plain → g.2.isUndivided = true) →
          ∃ fault, b.build calls = .error fault) ∧
        ((∀ e ∈ entries, e.1.isWritable = true) →
          ((∀ e ∈ entries, ∃ s, e.1 = .text s) ∨ (∀ e ∈ entries, ∀ s, e.1 ≠ .text s) ∧
            ∀ e ∈ entries, ∀ f ∈ entries, e.1.IsNan → f.1.IsNan → e = f) →
          ∀ fault, ¬Value.HasFault entries fault) := by
  have builds : (∃ r, b.build calls = .ok r) ↔ ∃ frozen, b.matchers.freeze calls = .ok frozen := by
    rw [build_eq bound typed placed]
    cases tried : b.matchers.freeze calls with
    | ok frozen => simp [finish_of_frozen tried]
    | error fault => simp [finish_of_fault tried]
  refine ⟨builds.trans Matchers.exists_freeze_iff, fun r built => ?_, fun fault unbuilt => ?_, fun entries holds => ?_⟩
  · obtain rfl := toBuilder_of_build built
    refine ⟨rfl, Rule.exists_hash h (Rule.isSound_of_toBuilder allow deny whole), fun s => ?_⟩
    exact RuleSet.contains_iff.mpr (RuleSet.exists_same_of_insert s r)
  · rw [build_eq bound typed placed] at unbuilt
    cases tried : b.matchers.freeze calls with
    | ok frozen =>
      rw [finish_of_frozen tried] at unbuilt
      cases unbuilt
    | error cause =>
      rw [finish_of_fault tried] at unbuilt
      obtain rfl := Except.error.inj unbuilt
      obtain ⟨rfl, deeper⟩ | ⟨entries, holds, has⟩ := (b.matchers.meets_freeze calls).of_error tried
      · exact Or.inl ⟨rfl, deeper⟩
      · exact Or.inr ⟨cause, entries, rfl, holds, has⟩
  · obtain ⟨p, member, inside⟩ := holds
    have part := (whole p member).of_holds inside
    refine ⟨Value.exists_clash_of_hasFault part, fun e here f there clash decided => ?_,
      fun writable alike => Value.not_hasFault_of_alike part writable alike⟩
    cases tried : b.build calls with
    | error fault => exact ⟨fault, rfl⟩
    | ok r =>
      obtain ⟨frozen, taken⟩ := builds.mp ⟨r, tried⟩
      obtain ⟨a, ofSection⟩ := Matchers.exists_freeze_iff_of_given.mp ⟨frozen, Matchers.freeze_of_calls taken⟩ p member
      obtain ⟨c, ofMap⟩ := inside.exists_freeze ofSection
      exact absurd ofMap (Value.not_freeze_of_clash part here there clash decided c)

/-- A builder whose only property is a map with two keys. -/
def RuleBuilder.aboutKeys (k l v w : Value) : RuleBuilder where
  resourceType := some "job"
  environment := some ⟨"project", Attribute.standardBase, .literal "p"⟩
  source := "s[type:job][rule:1]"
  description := some "d"
  group := some "g"
  allow := [.text "a"]
  matchers := ⟨none, none, some [("a", .map [(k, v), (l, w)])], none⟩

theorem RuleBuilder.aboutKeys_isWhole {k l v w : Value} (key : k.IsKey) (key' : l.IsKey) (apart : k.same l = false)
    (first : v.IsWhole) (second : w.IsWhole) : (aboutKeys k l v w).matchers.IsWhole := by
  have inner : (Value.map [(k, v), (l, w)]).IsWhole :=
    Value.isWhole_map (by simp [key, key']) (by simp [apart]) (by simp [first, second])
  intro p member
  obtain rfl : p = _ := by simpa [aboutKeys, Matchers.given] using member
  exact Value.isWhole_map (by simp [Value.IsKey]) (by simp) (by simpa using inner)

theorem RuleBuilder.aboutKeys_sets (k l v w : Value) :
    (Value.set (aboutKeys k l v w).allow).IsSound ∧ (Value.set (aboutKeys k l v w).deny).IsSound := by
  simp [aboutKeys, Value.IsSound, Value.areMembers, Value.isMember]

/-- Where the two keys have one text, their values are compared. -/
theorem RuleBuilder.freeze_aboutKeys {k l v w : Value} {t : String} {i j : AtomIdentity}
    (key : Value.keyText k = .ok t) (key' : Value.keyText l = .ok t) (first : v.identity? = some i)
    (second : w.identity? = some j) : (Value.map [(k, v), (l, w)]).freeze = Value.freezeMap [(t, v), (t, w)] := by
  simp [Value.freeze, Value.freezeEntries, Value.enter_none, key, key', Value.freeze_of_atom first,
    Value.freeze_of_atom second, bind, Except.bind, pure, Except.pure]

/-- The rule of a number and its text as keys of two numbers, in as many nested calls as it takes. -/
theorem RuleBuilder.ordered_keys_build :
    (aboutKeys (.int 1) (.text "1") (.int 3) (.int 2)).principals = [⟨.group, "g"⟩] ∧
      (aboutKeys (.int 1) (.text "1") (.int 3) (.int 2)).matchers.IsWhole ∧
      ∃ r, (aboutKeys (.int 1) (.text "1") (.int 3) (.int 2)).build (some 3) = .ok r ∧
        r.toBuilder = aboutKeys (.int 1) (.text "1") (.int 3) (.int 2) ∧
        (∃ n, r.hash? .counting = some n) ∧ (RuleSet.empty.insert r).contains r = true := by
  have whole : (aboutKeys (.int 1) (.text "1") (.int 3) (.int 2)).matchers.IsWhole :=
    aboutKeys_isWhole trivial trivial (by simp [Value.same, Value.sameAtom, Value.worth?])
      (Value.isWhole_of_atom rfl) (Value.isWhole_of_atom rfl)
  have sets := aboutKeys_sets (.int 1) (.text "1") (.int 3) (.int 2)
  have bound : (aboutKeys (.int 1) (.text "1") (.int 3) (.int 2)).principals = [⟨.group, "g"⟩] := rfl
  obtain ⟨exactly, built, _, _⟩ := builds_iff .counting (some 3) bound rfl rfl sets.1 sets.2 whole
  have fits : (aboutKeys (.int 1) (.text "1") (.int 3) (.int 2)).matchers.Fits (some 3) := by
    simp [aboutKeys, Matchers.Fits, Value.Fits, Properties.toValue, Value.height, Value.entryHeights]
  -- without a limit the matchers can be frozen, as the two numbers have an order, so no map in them has a fault
  have sorted : Value.freezeMap [("1", .int 3), ("1", .int 2)] =
      .ok (.tuple [.tuple [.text "1", .int 2], .tuple [.text "1", .int 3]]) := by
    simp [Value.freezeMap, Value.sortEntries, Value.takeRun, Value.entryLess?, Value.same, Value.sameAtom,
      Value.worth?, Value.less?, Value.atomLess?, Worth.less]
  have number : Value.keyText (.int 1) = .ok "1" := by decide +kernel
  have text : Value.keyText (.text "1") = .ok "1" := by decide +kernel
  have frozen := freeze_parameter ((freeze_aboutKeys (v := .int 3) (w := .int 2) number text rfl rfl).trans sorted)
  have taken : (aboutKeys (.int 1) (.text "1") (.int 3) (.int 2)).matchers.freeze = .ok ⟨none, none, some _, none⟩ :=
    Matchers.freeze_eq_ok_iff.mpr ⟨rfl, rfl, by rw [aboutKeys, freezeSection, frozen]; rfl, rfl⟩
  obtain ⟨r, done⟩ := exactly.mpr ⟨fits, (Matchers.exists_freeze_iff.mp ⟨_, taken⟩).2⟩
  obtain ⟨back, ⟨n, hash, _⟩, contained⟩ := built r done
  exact ⟨bound, whole, r, done, back, ⟨n, hash⟩, contained .empty⟩

/-- A text and a number have no order, so a builder comes to no rule where two keys with one text have them as values: a
number and its text, or two keys that are no numbers. Nor does it where its matchers are deeper than calls may be nested. -/
theorem RuleBuilder.unordered_keys_fail :
    (aboutKeys (.int 1) (.text "1") (.text "a") (.int 2)).principals = [⟨.group, "g"⟩] ∧
      (aboutKeys (.int 1) (.text "1") (.text "a") (.int 2)).resourceType.isSome = true ∧
      (aboutKeys (.int 1) (.text "1") (.text "a") (.int 2)).environment.isSome = true ∧
      (aboutKeys (.int 1) (.text "1") (.text "a") (.int 2)).matchers.IsWhole ∧
      (aboutKeys (.int 1) (.text "1") (.text "a") (.int 2)).build = .error (.matchers .unordered) ∧
      (aboutKeys (.float (.nan (some 1))) (.float (.nan (some 2))) (.text "a") (.int 2)).matchers.IsWhole ∧
      (aboutKeys (.float (.nan (some 1))) (.float (.nan (some 2))) (.text "a") (.int 2)).build =
        .error (.matchers .unordered) ∧
      (aboutKeys (.int 1) (.text "1") (.int 3) (.int 2)).build (some 2) = .error (.matchers .tooDeep) := by
  have unsorted (t : String) : Value.freezeMap [(t, .text "a"), (t, .int 2)] = .error .unordered := by
    simp [Value.freezeMap, Value.sortEntries, Value.takeRun, Value.entryLess?, Value.same, Value.sameAtom,
      Value.worth?, Value.less?, Value.atomLess?]
  have name : Value.keyText (.text "a") = .ok "a" := by decide +kernel
  have number : Value.keyText (.int 1) = .ok "1" := by decide +kernel
  have text : Value.keyText (.text "1") = .ok "1" := by decide +kernel
  have nan (object : Option Nat) : Value.keyText (.float (.nan object)) = .ok "nan" := rfl
  have fails {k l : Value} {t : String} (key : Value.keyText k = .ok t) (key' : Value.keyText l = .ok t) :
      (aboutKeys k l (.text "a") (.int 2)).build = .error (.matchers .unordered) := by
    have inner := (freeze_aboutKeys (v := .text "a") (w := .int 2) key key' rfl rfl).trans (unsorted t)
    have outer : (Properties.toValue [("a", .map [(k, .text "a"), (l, .int 2)])]).freeze = .error .unordered := by
      rw [Properties.toValue, List.map_singleton, Value.freeze, Value.enter_none_bind, Value.freezeEntries, name, inner]
      rfl
    refine (build_eq rfl rfl rfl).trans (finish_of_fault ?_ ..)
    simp [aboutKeys, Matchers.freeze, freezeSection, Value.enter_none, outer, bind, Except.bind, Except.map]
  have apart : (Value.float (.nan (some 1))).same (.float (.nan (some 2))) = false := by
    simp [Value.same, Value.sameAtom, Value.worth?]
  have deep : (aboutKeys (.int 1) (.text "1") (.int 3) (.int 2)).matchers.freeze (some 2) = .error .tooDeep := by
    simp [aboutKeys, Matchers.freeze, freezeSection, Properties.toValue, Value.freeze, Value.freezeEntries, Value.enter,
      name, number, bind, Except.bind, Except.map]
  refine ⟨rfl, rfl, rfl, ?_, fails number text, ?_, fails (nan _) (nan _),
    (build_eq rfl rfl rfl).trans (finish_of_fault deep ..)⟩
  · exact aboutKeys_isWhole trivial trivial (by simp [Value.same, Value.sameAtom, Value.worth?])
      (Value.isWhole_of_atom rfl) (Value.isWhole_of_atom rfl)
  · exact aboutKeys_isWhole trivial trivial apart (Value.isWhole_of_atom rfl) (Value.isWhole_of_atom rfl)

end AccessPolicy
