import AccessPolicy.Policy

namespace AccessPolicy.Policy

theorem ofDocument_eq (d : Document) (source : String) (index : Int) (pinned : Option (List Attribute)) :
    ofDocument d source index pinned =
      match d.violation?, Environment.resolve pinned Attribute.standardBase d, d.principals with
      | some violation, _, _ => .error (.form violation)
      | none, .error fault, _ => .error (.scope fault)
      | none, .ok _, .error fault => .error (.principals fault)
      | none, .ok environment, .ok principals =>
        (d.expand environment source principals.all).map fun rules =>
          ⟨d, source, index, environment, principals, rules⟩ := by
  unfold ofDocument
  cases d.violation? with
  | some violation => rfl
  | none =>
    cases Environment.resolve pinned Attribute.standardBase d with
    | error fault => rfl
    | ok environment =>
      cases d.principals with
      | error fault => rfl
      | ok principals =>
        cases d.expand environment source principals.all <;> rfl

/-- What is known of a policy that a document has come to. -/
structure MadeFrom (p : Policy) (d : Document) (source : String) (index : Int) (pinned : Option (List Attribute)) :
    Prop where
  valid : d.violation? = none
  resolved : Environment.resolve pinned Attribute.standardBase d = .ok p.environment
  named : d.principals = .ok p.principals
  expanded : d.expand p.environment source p.principals.all = .ok p.rules
  document : p.document = d
  source : p.source = source
  index : p.index = index

theorem ofDocument_eq_ok_iff {p : Policy} {d : Document} {source : String} {index : Int}
    {pinned : Option (List Attribute)} :
    ofDocument d source index pinned = .ok p ↔ p.MadeFrom d source index pinned := by
  rw [ofDocument_eq]
  constructor
  · intro made
    split at made
    · cases made
    · cases made
    · cases made
    · rename_i environment principals valid resolved named
      cases expanded : d.expand environment source principals.all with
      | error fault => simp [expanded, Except.map] at made
      | ok rules =>
        obtain rfl : Policy.mk d source index environment principals rules = p := by
          simpa [expanded, Except.map] using made
        exact ⟨valid, resolved, named, expanded, rfl, rfl, rfl⟩
  · rintro ⟨valid, resolved, named, expanded, rfl, rfl, rfl⟩
    simp [valid, resolved, named, expanded, Except.map]

end AccessPolicy.Policy
