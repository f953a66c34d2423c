import AccessPolicy.Environment.Resolution

namespace AccessPolicy

theorem Pattern.source_of_ofText {text : String} {p : Pattern} (read : Pattern.ofText text = .ok p) :
    p.source = text := by
  unfold Pattern.ofText at read
  split at read
  · exact congrArg Pattern.source (Except.ok.inj read).symm
  · cases read

theorem Pattern.ofText_source (p : Pattern) : Pattern.ofText p.source = .ok p := by
  obtain ⟨source, form, denoted⟩ := p
  unfold Pattern.ofText
  split
  · rename_i form' read
    obtain rfl := Except.ok.inj (denoted.symm.trans read)
    rfl
  · rename_i fault failed
    rw [denoted] at failed
    cases failed

namespace Environment

/-- A scope is a pattern that a document declares for its project or for its application. -/
structure DeclaredBy (e : Environment) (d : Document) : Prop where
  pattern : e.criterion.isPattern = true
  declared : e.key = Attribute.projectKey ∧ d.scope = some ⟨some e.value, none⟩ ∨
    e.key = Attribute.applicationKey ∧ d.scope = some ⟨none, some e.value⟩

/-- A scope whose value is a pattern has the key, the namespace and the value that it is made of. -/
theorem ofPattern_eq_ok {key value base : String} {e : Environment} (made : ofPattern key value base = .ok e) :
    e.key = key ∧ e.base = base ∧ e.value = value ∧ e.criterion.isPattern = true := by
  unfold ofPattern at made
  split at made
  · rename_i p read
    obtain rfl := Except.ok.inj made
    exact ⟨rfl, rfl, Pattern.source_of_ofText read, rfl⟩
  · cases made

theorem resolve_pinned {attributes : List Attribute} {base : String} {d : Document} {e : Environment}
    (resolved : resolve (some attributes) base d = .ok e) : ofAttributes base attributes.eraseDups = .ok e := by
  unfold resolve at resolved
  cases declared : d.scope with
  | some scope => simp [declared] at resolved
  | none => simpa [declared] using resolved

theorem resolve_declared {base : String} {d : Document} {e : Environment} (resolved : resolve none base d = .ok e) :
    e.DeclaredBy d := by
  unfold resolve at resolved
  cases scope : d.scope with
  | none => simp [scope] at resolved
  | some declared =>
    simp only [scope] at resolved
    obtain ⟨project, application⟩ := declared
    unfold ofDeclared at resolved
    split at resolved
    · rename_i value isProject noApplication
      obtain rfl : project = some value := isProject
      obtain rfl : application = none := noApplication
      obtain ⟨key, _, value, pattern⟩ := ofPattern_eq_ok resolved
      exact ⟨pattern, Or.inl ⟨key, by rw [scope, value]⟩⟩
    · rename_i value noProject isApplication
      obtain rfl : project = none := noProject
      obtain rfl : application = some value := isApplication
      obtain ⟨key, _, value, pattern⟩ := ofPattern_eq_ok resolved
      exact ⟨pattern, Or.inr ⟨key, by rw [scope, value]⟩⟩
    · cases resolved

end Environment

end AccessPolicy
