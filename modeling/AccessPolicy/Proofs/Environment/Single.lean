import AccessPolicy.Proofs.Environment.Settling

namespace AccessPolicy.Environment

/-- An attribute with a key and a value is pinned, and no other one in the namespace. -/
def OnlyPinned (base key value : String) (attributes : List Attribute) : Prop :=
  ∀ a, a ∈ attributes ∧ (a.key? base).isSome = true ↔ a = ⟨base ++ key, value⟩

/-- A text that is a pattern, or that is none for a fault of its form. -/
def IsChecked (value : String) : Prop :=
  ∀ fault, Pattern.ofText value = .error fault → fault.isFormal = true

/-- A scope has a key and a value and leads back to their attribute. The value is taken for a pattern if it is one, and
for itself if it is none. -/
structure StandsFor (e : Environment) (base key value : String) : Prop where
  sameKey : e.key = key
  sameValue : e.value = value
  leadsBack : e.uri = base ++ key
  asPattern : ∀ p, Pattern.ofText value = .ok p → e.criterion = .pattern p
  asLiteral : ∀ fault, Pattern.ofText value = .error fault → e.criterion = .literal value

theorem exists_ofPair_standsFor (base key value : String) :
    ∃ e, ofPair base (isPattern value) (key, value) = .ok e ∧ e.StandsFor base key value := by
  cases read : Pattern.ofText value with
  | ok p =>
    have isPattern : isPattern value = true := by rw [isPattern, read]; rfl
    refine ⟨⟨key, base, .pattern p⟩, ?_, ⟨rfl, Pattern.source_of_ofText read, rfl, ?_, ?_⟩⟩
    · simp [ofPair, ofPattern, isPattern, read]
    · rintro q same
      rw [read] at same
      rw [Except.ok.inj same]
    · rintro fault failed
      rw [read] at failed
      cases failed
  | error fault =>
    have noPattern : isPattern value = false := by rw [isPattern, read]; rfl
    refine ⟨ofLiteral key value base, ?_, ⟨rfl, rfl, rfl, ?_, fun _ _ => rfl⟩⟩
    · simp [ofPair, noPattern]
    · rintro p same
      rw [read] at same
      cases same

section OnlyPinned

variable {base key value : String} {attributes : List Attribute}

theorem OnlyPinned.mem_inside_iff (only : OnlyPinned base key value attributes) (pair : String × String) :
    pair ∈ inside base attributes ↔ pair = (key, value) := by
  rw [mem_inside]
  constructor
  · rintro ⟨a, given, found, same⟩
    have own := (only a).mp ⟨given, by rw [found]; rfl⟩
    subst own
    have sameKey : (⟨base ++ key, value⟩ : Attribute).key? base = some key := Attribute.key?_eq_some_iff.mpr rfl
    exact Prod.ext (Option.some.inj (found.symm.trans sameKey)) same.symm
  · rintro rfl
    obtain ⟨given, _⟩ := (only ⟨base ++ key, value⟩).mpr rfl
    exact ⟨_, given, Attribute.key?_eq_some_iff.mpr rfl, rfl⟩

theorem OnlyPinned.congr {others : List Attribute} (only : OnlyPinned base key value attributes)
    (same : ∀ a, a ∈ others ↔ a ∈ attributes) : OnlyPinned base key value others := by
  intro a
  rw [same]
  exact only a

theorem OnlyPinned.confined_iff (only : OnlyPinned base key value attributes) :
    Confined base attributes ↔ IsChecked value := by
  simp only [Confined, only.mem_inside_iff, forall_eq]
  rfl

/-- A value that is checked settles the scope. -/
theorem OnlyPinned.exists_standsFor (only : OnlyPinned base key value attributes) (isChecked : IsChecked value) :
    ∃ e, ofAttributes base attributes = .ok e ∧ e.StandsFor base key value := by
  have agreed : Agreed base attributes := by
    intro p inP q inQ
    rw [(only.mem_inside_iff p).mp inP, (only.mem_inside_iff q).mp inQ]
  have made := ofAttributes_agreed (only.confined_iff.mpr isChecked) agreed ((only.mem_inside_iff (key, value)).mpr rfl)
  obtain ⟨e, paired, stands⟩ := exists_ofPair_standsFor base key value
  exact ⟨e, made.trans paired, stands⟩

/-- A value that is not checked is a fault, which is none of its form. -/
theorem OnlyPinned.exists_fault (only : OnlyPinned base key value attributes) (unchecked : ¬IsChecked value) :
    ∃ fault, Pattern.ofText value = .error fault ∧ fault.isFormal = false ∧
      ofAttributes base attributes = .error (.pattern key value fault) := by
  obtain ⟨pair, member, fault, read, beyond, ended⟩ := ofAttributes_escapes (mt only.confined_iff.mp unchecked)
  obtain rfl := (only.mem_inside_iff pair).mp member
  exact ⟨fault, read, beyond, ended⟩

theorem OnlyPinned.exists_ok_iff (only : OnlyPinned base key value attributes) :
    (∃ e, ofAttributes base attributes = .ok e) ↔ IsChecked value := by
  constructor
  · rintro ⟨e, made⟩
    by_contra unchecked
    obtain ⟨fault, _, _, failed⟩ := only.exists_fault unchecked
    rw [made] at failed
    cases failed
  · intro isChecked
    obtain ⟨e, made, _⟩ := only.exists_standsFor isChecked
    exact ⟨e, made⟩

/-- The only attribute of its namespace comes to a scope that stands for it exactly if its value is a pattern, or no
pattern for a fault of its form; any other value is a fault. What else is pinned, how often and in which order does not
matter, nor does it for a document that declares no scope of its own. -/
theorem only_pinned_settles_iff (only : OnlyPinned base key value attributes) :
    ((∃ e, ofAttributes base attributes = .ok e) ↔ IsChecked value) ∧
      (∀ e, ofAttributes base attributes = .ok e → e.StandsFor base key value) ∧
      (∀ fault, ofAttributes base attributes = .error fault → ∃ beyond, Pattern.ofText value = .error beyond ∧
        beyond.isFormal = false ∧ fault = .pattern key value beyond) ∧
      ∀ d, d.scope = none → resolve (some attributes) base d = ofAttributes base attributes := by
  have same : ∀ a, a ∈ attributes.eraseDups ↔ a ∈ attributes := fun a => List.mem_eraseDups
  by_cases isChecked : IsChecked value
  · obtain ⟨e, made, stands⟩ := only.exists_standsFor isChecked
    refine ⟨only.exists_ok_iff, ?_, ?_, ?_⟩
    · rintro e' made'
      obtain rfl := Except.ok.inj (made.symm.trans made')
      exact stands
    · rintro fault failed
      rw [made] at failed
      cases failed
    · intro d undeclared
      have agreed : Agreed base attributes := fun p inP q inQ => by
        rw [(only.mem_inside_iff p).mp inP, (only.mem_inside_iff q).mp inQ]
      simpa [resolve, undeclared] using agreed.ofAttributes_congr (only.confined_iff.mpr isChecked) same
  · obtain ⟨beyond, read, escapes, failed⟩ := only.exists_fault isChecked
    refine ⟨only.exists_ok_iff, ?_, ?_, ?_⟩
    · rintro e made
      rw [failed] at made
      cases made
    · rintro fault failed'
      exact ⟨beyond, read, escapes, Except.error.inj (failed'.symm.trans failed)⟩
    · intro d undeclared
      obtain ⟨beyond', read', _, failed'⟩ := (only.congr same).exists_fault isChecked
      obtain rfl := Except.error.inj (read'.symm.trans read)
      simpa [resolve, undeclared, failed] using failed'

end OnlyPinned

/-- An unclosed bracket stands for itself. -/
theorem unclosed_settles :
    OnlyPinned Attribute.standardBase "project" "ops[(" [⟨"urn:other", "x"⟩, .ofKey "project" "ops[("] ∧
      ∃ e, ofAttributes Attribute.standardBase [⟨"urn:other", "x"⟩, .ofKey "project" "ops[("] = .ok e ∧
        e.StandsFor Attribute.standardBase "project" "ops[(" ∧ e.criterion.isPattern = false := by
  have only : OnlyPinned Attribute.standardBase "project" "ops[("
      [⟨"urn:other", "x"⟩, .ofKey "project" "ops[("] := by
    intro a
    constructor
    · rintro ⟨given, inside⟩
      rcases List.mem_cons.mp given with rfl | own
      · exact absurd inside (by decide)
      · exact List.mem_singleton.mp own
    · rintro rfl
      exact ⟨by decide, by decide +kernel⟩
  have literal : ((ofAttributes Attribute.standardBase [⟨"urn:other", "x"⟩, .ofKey "project" "ops[("]).map fun e =>
      e.criterion.isPattern).toOption = some false := by decide +kernel
  cases made : ofAttributes Attribute.standardBase [⟨"urn:other", "x"⟩, .ofKey "project" "ops[("] with
  | error fault => simp [made, Except.map, Except.toOption] at literal
  | ok e =>
    have same : e.criterion.isPattern = false := by simpa [made, Except.map, Except.toOption] using literal
    exact ⟨only, e, rfl, (only_pinned_settles_iff only).2.1 e made, same⟩

/-- A repetition beyond all bounds is refused, though nothing else is pinned. -/
theorem countless_unsettled :
    OnlyPinned Attribute.standardBase "project" "a\x7b99999999999\x7d" [.ofKey "project" "a\x7b99999999999\x7d"] ∧
      ¬∃ e, ofAttributes Attribute.standardBase [.ofKey "project" "a\x7b99999999999\x7d"] = .ok e := by
  constructor
  · intro a
    constructor
    · exact fun ⟨given, _⟩ => List.mem_singleton.mp given
    · rintro rfl
      exact ⟨by decide, by decide +kernel⟩
  · have refused : (ofAttributes Attribute.standardBase [.ofKey "project" "a\x7b99999999999\x7d"]).toBool = false := by
      decide +kernel
    rintro ⟨e, made⟩
    rw [made] at refused
    cases refused

end AccessPolicy.Environment
