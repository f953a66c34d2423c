import AccessPolicy.Document
import AccessPolicy.Environment
import AccessPolicy.Value.Frozen
import AccessPolicy.Value.Members

namespace AccessPolicy

/-- The kinds of principals. -/
inductive PrincipalKind where
  | username
  | group
  | urn
deriving DecidableEq, Repr

/-- The name of a kind of principals. -/
def PrincipalKind.text : PrincipalKind → String
  | .username => "username"
  | .group => "group"
  | .urn => "urn"

/-- A principal. -/
structure Principal where
  kind : PrincipalKind
  name : String
deriving DecidableEq, Repr

/-- Actions, each once. A rule that comes from a valid document has texts only. -/
abbrev Actions := List Value

/-- The actions that a grant stands for: a text is one action, and anything else is what it holds. None if it
holds nothing, or what cannot be in a set. -/
def Actions.ofGrant? : Value → Option Actions
  | .null => some []
  | .text s => some [.text s]
  | v => v.members?.bind Value.setOf?

/-- The frozen forms of the sections of matchers. -/
structure FrozenMatchers where
  regex : Option Value
  contains : Option Value
  equals : Option Value
  subset : Option Value
deriving Repr

/-- Properties as data. -/
def Properties.toValue (p : Properties) : Value :=
  .map (p.map fun (key, v) => (.text key, v))

/-- The frozen form of a section. -/
def freezeSection : Option Properties → (calls : Option Nat := none) → Except Value.FreezeFault (Option Value)
  | none, calls => (Value.enter calls).map fun _ => none
  | some p, calls => (p.toValue.freeze calls).map some

/-- The frozen forms of all sections, or the fault of the first that has none. -/
def Matchers.freeze (m : Matchers) (calls : Option Nat := none) : Except Value.FreezeFault FrozenMatchers := do
  return ⟨← freezeSection m.regex calls, ← freezeSection m.contains calls, ← freezeSection m.equals calls,
    ← freezeSection m.subset calls⟩

theorem freezeSection_of_calls {section? : Option Properties} {frozen : Option Value} {calls : Option Nat}
    (taken : freezeSection section? calls = .ok frozen) : freezeSection section? = .ok frozen := by
  cases section? with
  | none =>
    cases entered : Value.enter calls with
    | error fault => simp [freezeSection, entered, Except.map] at taken
    | ok left => simpa [freezeSection, entered, Value.enter_none, Except.map] using taken
  | some p =>
    cases first : p.toValue.freeze calls with
    | error fault => simp [freezeSection, first, Except.map] at taken
    | ok a => simpa [freezeSection, first, Value.freeze_of_calls first, Except.map] using taken

/-- Matchers that are frozen within some nested calls are frozen so where any number may be nested. -/
theorem Matchers.freeze_of_calls {m : Matchers} {frozen : FrozenMatchers} {calls : Option Nat}
    (taken : m.freeze calls = .ok frozen) : m.freeze = .ok frozen := by
  cases regex : freezeSection m.regex calls with
  | error fault => simp [freeze, regex, bind, Except.bind] at taken
  | ok a =>
    cases contains : freezeSection m.contains calls with
    | error fault => simp [freeze, regex, contains, bind, Except.bind] at taken
    | ok b =>
      cases equals : freezeSection m.equals calls with
      | error fault => simp [freeze, regex, contains, equals, bind, Except.bind] at taken
      | ok c =>
        cases subset : freezeSection m.subset calls with
        | error fault => simp [freeze, regex, contains, equals, subset, bind, Except.bind] at taken
        | ok d =>
          simpa [freeze, regex, contains, equals, subset, freezeSection_of_calls regex,
            freezeSection_of_calls contains, freezeSection_of_calls equals, freezeSection_of_calls subset, bind,
            Except.bind] using taken

/-- Whether two frozen sections are the same. -/
def sameSection : Option Value → Option Value → Bool
  | none, none => true
  | some v, some w => v.same w
  | _, _ => false

/-- Whether all frozen sections are the same. -/
def FrozenMatchers.same (m n : FrozenMatchers) : Bool :=
  sameSection m.regex n.regex && sameSection m.contains n.contains
    && sameSection m.equals n.equals && sameSection m.subset n.subset

/-- A rule. It is inclusive if it is about its principal, and exclusive if it is about all others. Its matchers
have a frozen form, by which rules are compared. -/
structure Rule where
  resourceType : String
  environment : Environment
  source : String
  description : Option String
  inclusive : Bool
  principal : Principal
  allow : Actions
  deny : Actions
  matchers : Matchers
  frozen : FrozenMatchers
  isFrozen : matchers.freeze = .ok frozen

namespace Rule

/-- Whether two rules are the same. -/
def same (r s : Rule) : Bool :=
  r.resourceType == s.resourceType && r.environment.same s.environment && r.source == s.source
    && r.description == s.description && r.inclusive == s.inclusive && r.principal == s.principal
    && (Value.set r.allow).same (.set s.allow) && (Value.set r.deny).same (.set s.deny)
    && r.frozen.same s.frozen

/-- Actions as rules show them; none if they cannot be sorted. -/
def actionsText? (actions : Actions) : Option String :=
  (Value.sort? actions).map fun sorted => (Value.list sorted).expression

/-- A rule as one line; none if its actions cannot be sorted. -/
def text? (r : Rule) : Option String := do
  let allow ← actionsText? r.allow
  let deny ← actionsText? r.deny
  return (if r.inclusive then "by " else "notBy ") ++ r.principal.kind.text ++ ":" ++ r.principal.name ++ " "
    ++ r.resourceType ++ " allow=" ++ allow ++ " deny=" ++ deny ++ " " ++ r.environment.text ++ " " ++ r.source

/-- What a rule does and how it matches, by name. -/
def traits (r : Rule) : List String :=
  let trait := fun (holds : Bool) (name : String) => if holds then [name] else []
  trait (!r.allow.isEmpty) "allow" ++ trait (!r.deny.isEmpty) "deny"
    ++ trait r.matchers.contains.isSome "contains" ++ trait r.matchers.equals.isSome "equals"
    ++ trait r.matchers.regex.isSome "regex" ++ trait r.matchers.subset.isSome "subset"

end Rule

end AccessPolicy
