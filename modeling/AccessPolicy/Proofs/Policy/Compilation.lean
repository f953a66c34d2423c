import AccessPolicy.Proofs.Policy.Expansion
import AccessPolicy.Proofs.Policy.Stages

namespace AccessPolicy

namespace Document

/-- A document passes the three stages: its form is valid, it has a scope, and it selects names. -/
structure PassesStages (d : Document) (pinned : Option (List Attribute)) : Prop where
  valid : d.violation? = none
  resolved : ∃ environment, Environment.resolve pinned Attribute.standardBase d = .ok environment
  selects : d.SelectsNames

/-- The fault of the first stage that a document fails. -/
inductive FirstFault (d : Document) (pinned : Option (List Attribute)) : PolicyFault → Prop
  | form {violation : Violation} (violates : d.violation? = some violation) : FirstFault d pinned (.form violation)
  | scope {fault : Environment.ScopeFault} (valid : d.violation? = none)
      (unresolved : Environment.resolve pinned Attribute.standardBase d = .error fault) :
      FirstFault d pinned (.scope fault)
  | principals {fault : PrincipalFault} (valid : d.violation? = none)
      (resolved : ∃ environment, Environment.resolve pinned Attribute.standardBase d = .ok environment)
      (unnamed : d.principals = .error fault) : FirstFault d pinned (.principals fault)

/-- A fault that is none of a policy's form: a pattern is beyond what patterns are checked for, or all stages are passed
and then matchers cannot be frozen. -/
inductive Escapes (d : Document) (pinned : Option (List Attribute)) : PolicyFault → Prop
  | pattern {key value : String} {fault : Pattern.Fault} (valid : d.violation? = none)
      (unresolved : Environment.resolve pinned Attribute.standardBase d = .error (.pattern key value fault))
      (beyond : fault.isFormal = false) : Escapes d pinned (.scope (.pattern key value fault))
  | matchers {fault : Value.FreezeFault} (passes : d.PassesStages pinned) (unfrozen : d.freezeFault? = some fault) :
      Escapes d pinned (.rule (.matchers fault))

/-- What is promised of a document: it comes to a policy exactly if it passes all stages, and otherwise to the fault of
the first stage that it fails, which is one of its form. -/
structure KeepsPromise (d : Document) (source : String) (index : Int) (pinned : Option (List Attribute)) : Prop where
  created : (∃ p, Policy.ofDocument d source index pinned = .ok p) ↔ d.PassesStages pinned
  refused : ∀ fault, Policy.ofDocument d source index pinned = .error fault →
    d.FirstFault pinned fault ∧ fault.isFormal = true

variable {d : Document} {pinned : Option (List Attribute)}

theorem FirstFault.not_passes {fault : PolicyFault} (first : d.FirstFault pinned fault) : ¬d.PassesStages pinned := by
  rintro ⟨valid, ⟨environment, resolved⟩, selects⟩
  cases first with
  | form violates => simp [valid] at violates
  | scope _ unresolved => simp [resolved] at unresolved
  | principals _ _ unnamed =>
    obtain ⟨p, named⟩ := exists_principals selects
    simp [named] at unnamed

/-- The fault of a stage is one of form unless a pattern is beyond what patterns are checked for. -/
theorem FirstFault.isFormal_or_escapes {fault : PolicyFault} (first : d.FirstFault pinned fault) :
    fault.isFormal = true ∨ d.Escapes pinned fault := by
  cases first with
  | form | principals => exact Or.inl rfl
  | @scope fault valid unresolved =>
    cases fault with
    | pattern key value fault =>
      cases formal : fault.isFormal with
      | false => exact Or.inr (.pattern valid unresolved formal)
      | true => exact Or.inl formal
    | _ => exact Or.inl rfl

theorem Escapes.isFormal_eq_false {fault : PolicyFault} (escapes : d.Escapes pinned fault) :
    fault.isFormal = false := by
  cases escapes with
  | pattern _ _ beyond => exact beyond
  | matchers => rfl

end Document

namespace Policy

/-- A document comes to a policy, fails a stage, or passes all stages with matchers that cannot be frozen. -/
theorem ofDocument_cases (d : Document) (source : String) (index : Int) (pinned : Option (List Attribute)) :
    (d.PassesStages pinned ∧ d.freezeFault? = none ∧ ∃ p, ofDocument d source index pinned = .ok p) ∨
      (∃ fault, d.FirstFault pinned fault ∧ ofDocument d source index pinned = .error fault) ∨
      ∃ fault, d.PassesStages pinned ∧ d.freezeFault? = some fault ∧
        ofDocument d source index pinned = .error (.rule (.matchers fault)) := by
  rw [ofDocument_eq]
  cases valid : d.violation? with
  | some violation => exact Or.inr (Or.inl ⟨_, .form valid, rfl⟩)
  | none =>
    cases resolved : Environment.resolve pinned Attribute.standardBase d with
    | error fault => exact Or.inr (Or.inl ⟨_, .scope valid resolved, rfl⟩)
    | ok environment =>
      cases named : d.principals with
      | error fault => exact Or.inr (Or.inl ⟨_, .principals valid ⟨environment, resolved⟩ named, rfl⟩)
      | ok principals =>
        obtain ⟨selects, names⟩ := Document.principals_eq_ok named
        have passes : d.PassesStages pinned := ⟨valid, ⟨environment, resolved⟩, selects⟩
        cases frozen : d.freezeFault? with
        | none =>
          obtain ⟨rules, expanded⟩ := @Document.exists_expand d environment source principals.all valid frozen
          exact Or.inl ⟨passes, rfl, _, by simp only [expanded]; rfl⟩
        | some fault =>
          obtain ⟨_, kind, name, declared⟩ := selects
          have some : principals.all ≠ [] := List.ne_nil_of_mem
            (Principals.mem_all.mpr (((names kind).2 name).mpr declared) : ⟨kind, name⟩ ∈ principals.all)
          have failed := @Document.expand_of_fault d environment source principals.all valid some fault frozen
          exact Or.inr (Or.inr ⟨fault, passes, rfl, by simp only [failed]; rfl⟩)

variable {d : Document} {source : String} {index : Int} {pinned : Option (List Attribute)}

theorem ofDocument_of_firstFault {fault : PolicyFault} (first : d.FirstFault pinned fault) :
    ofDocument d source index pinned = .error fault := by
  rw [ofDocument_eq]
  cases first with
  | form violates => simp [violates]
  | scope valid unresolved => simp [valid, unresolved]
  | principals valid resolved unnamed =>
    obtain ⟨environment, resolved⟩ := resolved
    simp [valid, resolved, unnamed]

theorem ofDocument_of_escapes {fault : PolicyFault} (escapes : d.Escapes pinned fault) :
    ofDocument d source index pinned = .error fault := by
  cases escapes with
  | pattern valid unresolved _ => exact ofDocument_of_firstFault (.scope valid unresolved)
  | @matchers fault passes unfrozen =>
    rcases ofDocument_cases d source index pinned with ⟨_, frozen, _⟩ | ⟨_, first, _⟩ | ⟨other, _, unfrozen', failed⟩
    · simp [frozen] at unfrozen
    · exact absurd passes first.not_passes
    · obtain rfl : other = fault := by simpa [unfrozen] using unfrozen'.symm
      exact failed

theorem exists_ofDocument_iff :
    (∃ p, ofDocument d source index pinned = .ok p) ↔ d.PassesStages pinned ∧ d.freezeFault? = none := by
  constructor
  · rintro ⟨p, created⟩
    rcases ofDocument_cases d source index pinned with ⟨passes, frozen, _⟩ | ⟨_, _, failed⟩ | ⟨_, _, _, failed⟩
    · exact ⟨passes, frozen⟩
    · simp [failed] at created
    · simp [failed] at created
  · rintro ⟨passes, frozen⟩
    rcases ofDocument_cases d source index pinned with ⟨_, _, created⟩ | ⟨_, first, _⟩ | ⟨_, _, unfrozen, _⟩
    · exact created
    · exact absurd passes first.not_passes
    · simp [frozen] at unfrozen

theorem ofDocument_eq_error_iff {fault : PolicyFault} :
    ofDocument d source index pinned = .error fault ↔ d.FirstFault pinned fault ∨ d.Escapes pinned fault := by
  constructor
  · intro failed
    rcases ofDocument_cases d source index pinned with
      ⟨_, _, p, created⟩ | ⟨_, first, same⟩ | ⟨_, passes, unfrozen, same⟩
    · simp [created] at failed
    · obtain rfl := Except.error.inj (failed.symm.trans same)
      exact Or.inl first
    · obtain rfl := Except.error.inj (failed.symm.trans same)
      exact Or.inr (.matchers passes unfrozen)
  · rintro (first | escapes)
    · exact ofDocument_of_firstFault first
    · exact ofDocument_of_escapes escapes

/-- Where nothing escapes, the promise is kept. -/
theorem keepsPromise_of_confined (confined : ∀ fault, ¬d.Escapes pinned fault) :
    d.KeepsPromise source index pinned := by
  have frozen : d.PassesStages pinned → d.freezeFault? = none := by
    intro passes
    cases unfrozen : d.freezeFault? with
    | none => rfl
    | some fault => exact absurd (.matchers passes unfrozen) (confined _)
  refine ⟨?_, fun fault failed => ?_⟩
  · rw [exists_ofDocument_iff]
    exact ⟨And.left, fun passes => ⟨passes, frozen passes⟩⟩
  · rcases ofDocument_eq_error_iff.mp failed with first | escapes
    · rcases first.isFormal_or_escapes with formal | escapes
      · exact ⟨first, formal⟩
      · exact absurd escapes (confined fault)
    · exact absurd escapes (confined fault)

/-- A document comes to a policy exactly if it passes all stages and its matchers can be frozen. A failed stage and a
fault that escapes are what it comes to otherwise, and the promise is kept exactly if nothing escapes. -/
theorem keepsPromise_iff (d : Document) (source : String) (index : Int) (pinned : Option (List Attribute)) :
    ((∃ p, ofDocument d source index pinned = .ok p) ↔ d.PassesStages pinned ∧ d.freezeFault? = none) ∧
      (∀ fault, ofDocument d source index pinned = .error fault ↔
        d.FirstFault pinned fault ∨ d.Escapes pinned fault) ∧
      (∀ fault, d.Escapes pinned fault → fault.isFormal = false) ∧
      (d.KeepsPromise source index pinned ↔ ∀ fault, ¬d.Escapes pinned fault) := by
  refine ⟨exists_ofDocument_iff, fun fault => ofDocument_eq_error_iff, fun fault => ?_, ?_, keepsPromise_of_confined⟩
  · exact Document.Escapes.isFormal_eq_false
  · intro keeps fault escapes
    have formal := (keeps.refused fault (ofDocument_of_escapes escapes)).2
    simp [escapes.isFormal_eq_false] at formal

/-- A document whose scope is a pattern that repeats a character more often than can be counted. -/
def countless : Document where
  description := some "d"
  scope := some ⟨some "a\x7b99999999999\x7d", none⟩
  included := some ⟨.text "u", .null, .null⟩
  excluded := none
  rules := some ⟨[("job", [⟨.text "read", .null, ⟨none, none, none, none⟩⟩])], by decide⟩

/-- The promise is not kept for every document. -/
theorem countless_breaks_promise : ¬countless.KeepsPromise "src" 1 none := by
  intro keeps
  have fault : ((ofDocument countless "src" 1 none).toBool, match ofDocument countless "src" 1 none with
      | .error fault => fault.isFormal
      | .ok _ => true) = (false, false) := by decide +kernel
  cases failed : ofDocument countless "src" 1 none with
  | ok p => simp [failed, Except.toBool] at fault
  | error found =>
    have formal := (keeps.refused found failed).2
    simp [failed, formal] at fault

end Policy

end AccessPolicy
