import AccessPolicy.Proofs.Environment.Scope

namespace AccessPolicy.Environment

/-- The attribute of a project or of the application. -/
def IsSubject (base : String) (a : Attribute) : Prop :=
  a.property = base ++ Attribute.projectKey ∨ a.property = base ++ Attribute.applicationKey

variable {base : String} {e : Environment}

theorem not_isProject_and_isApplication (e : Environment) : ¬(e.isProject = true ∧ e.isApplication = true) := by
  rintro ⟨project, application⟩
  have same : Attribute.projectKey = Attribute.applicationKey :=
    (beq_iff_eq.mp project).symm.trans (beq_iff_eq.mp application)
  exact absurd same (by decide)

/-- A scope is about exactly one of the two if it has the key of one of them. -/
theorem isProject_ne_isApplication_iff :
    e.isProject ≠ e.isApplication ↔ e.key = Attribute.projectKey ∨ e.key = Attribute.applicationKey := by
  have notBoth := e.not_isProject_and_isApplication
  rw [← @beq_iff_eq _ _ _ e.key Attribute.projectKey, ← @beq_iff_eq _ _ _ e.key Attribute.applicationKey]
  change _ ↔ e.isProject = true ∨ e.isApplication = true
  cases project : e.isProject <;> cases application : e.isApplication <;> simp [project, application] at notBoth ⊢

/-- All pinned attributes of the namespace have the key of the scope that they come to. -/
theorem exists_isSubject_iff {attributes : List Attribute} (made : ofAttributes base attributes = .ok e) :
    (∃ a ∈ attributes, IsSubject base a) ↔ e.key = Attribute.projectKey ∨ e.key = Attribute.applicationKey := by
  obtain ⟨pairs, last, split, taken⟩ := exists_last made
  have isLast : last ∈ inside base attributes := by simp [split]
  have key : e.key = last.1 := (ofPair_eq_ok taken).1
  constructor
  · rintro ⟨a, given, subject⟩
    have found (k : String) (property : a.property = base ++ k) : last.1 = k := by
      have member : (k, a.value) ∈ inside base attributes :=
        mem_inside.mpr ⟨a, given, Attribute.key?_eq_some_iff.mpr property, rfl⟩
      exact oneKey_of_ofAttributes made last isLast _ member
    rw [key]
    exact subject.imp (found _) (found _)
  · intro subject
    obtain ⟨a, given, found, _⟩ := mem_inside.mp isLast
    refine ⟨a, given, ?_⟩
    rw [IsSubject, Attribute.key?_eq_some_iff.mp found, ← key]
    exact subject.imp (congrArg _) (congrArg _)

/-- A scope is never about projects and the application at once. It is about one of them if it is declared; if it is
pinned, exactly if an attribute of one of them is pinned. All rules of a policy share the scope. -/
theorem one_subject_iff {pinned : Option (List Attribute)} {d : Document} (resolved : resolve pinned base d = .ok e) :
    ¬(e.isProject = true ∧ e.isApplication = true) ∧
      (e.isProject ≠ e.isApplication ↔
        ∀ attributes, pinned = some attributes → ∃ a ∈ attributes, IsSubject base a) ∧
      ∀ source index p, base = Attribute.standardBase → Policy.ofDocument d source index pinned = .ok p →
        ∀ r ∈ p.rules.rules, r.environment = e := by
  refine ⟨e.not_isProject_and_isApplication, ?_, ?_⟩
  · rw [isProject_ne_isApplication_iff]
    cases pinned with
    | none =>
      have declared := resolve_declared resolved
      have known := declared.declared.imp And.left And.left
      exact iff_of_true known fun attributes pins => absurd pins (by simp)
    | some attributes =>
      have subject := exists_isSubject_iff (resolve_pinned resolved)
      simp only [List.mem_eraseDups] at subject
      rw [← subject]
      constructor
      · intro given others same
        rwa [← Option.some.inj same]
      · exact fun given => given attributes rfl
  · rintro source index p rfl created r member
    have made := Policy.ofDocument_eq_ok_iff.mp created
    obtain ⟨_, _, _, follows⟩ := made.exists_follows member
    rw [follows.environment]
    exact Except.ok.inj (made.resolved.symm.trans resolved)

/-- The application is named among attributes of other namespaces. -/
theorem application_is_subject :
    ∃ e, resolve (some [⟨"urn:other", "x"⟩, .ofKey "application" "rundeck"]) Attribute.standardBase scopeless = .ok e ∧
      ¬(e.isProject = true ∧ e.isApplication = true) ∧ e.isProject ≠ e.isApplication := by
  have outcome : ((resolve (some [⟨"urn:other", "x"⟩, .ofKey "application" "rundeck"]) Attribute.standardBase
      scopeless).map Environment.key).toOption = some "application" := by decide +kernel
  cases resolved : resolve (some [⟨"urn:other", "x"⟩, .ofKey "application" "rundeck"]) Attribute.standardBase
      scopeless with
  | error fault => simp [resolved, Except.map, Except.toOption] at outcome
  | ok e =>
    obtain ⟨notBoth, one, _⟩ := one_subject_iff resolved
    refine ⟨e, rfl, notBoth, one.mpr fun attributes same => ?_⟩
    rw [← Option.some.inj same]
    exact ⟨.ofKey "application" "rundeck", by simp, .inr rfl⟩

/-- A pinned region is in scope for neither projects nor the application. -/
theorem region_is_no_subject :
    ∃ e, resolve (some [.ofKey "region" "eu"]) Attribute.standardBase scopeless = .ok e ∧
      e.isProject = false ∧ e.isApplication = false := by
  have outcome : ((resolve (some [.ofKey "region" "eu"]) Attribute.standardBase scopeless).map fun e =>
      (e.isProject, e.isApplication)).toOption = some (false, false) := by decide +kernel
  cases resolved : resolve (some [.ofKey "region" "eu"]) Attribute.standardBase scopeless with
  | error fault => simp [resolved, Except.map, Except.toOption] at outcome
  | ok e =>
    obtain ⟨project, application⟩ : e.isProject = false ∧ e.isApplication = false := by
      simpa [resolved, Except.map, Except.toOption] using outcome
    exact ⟨e, rfl, project, application⟩

end AccessPolicy.Environment
