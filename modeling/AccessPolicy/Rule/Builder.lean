import AccessPolicy.Rule

namespace AccessPolicy

/-- A rule in the making. -/
structure RuleBuilder where
  resourceType : Option String := none
  environment : Option Environment := none
  source : String := ""
  description : Option String := none
  inclusive : Bool := true
  username : Option String := none
  group : Option String := none
  urn : Option String := none
  allow : Actions := []
  deny : Actions := []
  matchers : Matchers := ⟨none, none, none, none⟩

/-- Why a rule cannot be built: it has not exactly one principal, no type, no scope, or matchers that cannot be
frozen. -/
inductive BuildFault where
  | principals (source : String) (found : Nat)
  | noType (source : String)
  | noEnvironment (source : String)
  | matchers (fault : Value.FreezeFault)
deriving DecidableEq, Repr

/-- The wording of a fault. -/
def BuildFault.message : BuildFault → String
  | principals source found =>
    source ++ s!": a rule must bind exactly one of username, group or urn, but found {found}"
  | noType source => source ++ ": rule has no resource type"
  | noEnvironment source => source ++ ": rule has no environment"
  | matchers .unordered => "'<' not supported between values of a matcher"
  | matchers .tooDeep => "maximum recursion depth exceeded"
  | matchers .unwritableKey => Value.unwritableText

namespace RuleBuilder

/-- The actions that are given to a builder directly: what the data holds, so that a text gives its characters. -/
def actions? (v : Value) : Option Actions :=
  if v.isVoid then some [] else v.members?.bind Value.setOf?

/-- Adds to the end of the source. -/
def extendSource (b : RuleBuilder) (more : String) : RuleBuilder :=
  { b with source := b.source ++ more }

/-- The principals of a builder. -/
def principals (b : RuleBuilder) : List Principal :=
  (b.username.map (Principal.mk .username)).toList ++ (b.group.map (Principal.mk .group)).toList
    ++ (b.urn.map (Principal.mk .urn)).toList

/-- The rule with given principal, type and scope. Only so many calls may be nested in freezing the matchers. -/
def finish (b : RuleBuilder) (principal : Principal) (resourceType : String) (environment : Environment)
    (calls : Option Nat := none) : Except BuildFault Rule :=
  match h : b.matchers.freeze calls with
  | .error fault => .error (.matchers fault)
  | .ok frozen =>
    .ok ⟨resourceType, environment, b.source, b.description, b.inclusive, principal, b.allow, b.deny, b.matchers,
      frozen, Matchers.freeze_of_calls h⟩

/-- The rule that the builder has come to. -/
def build (b : RuleBuilder) (calls : Option Nat := none) : Except BuildFault Rule :=
  match b.principals with
  | [principal] =>
    match b.resourceType, b.environment with
    | none, _ => .error (.noType b.source)
    | _, none => .error (.noEnvironment b.source)
    | some resourceType, some environment => b.finish principal resourceType environment calls
  | found => .error (.principals b.source found.length)

/-- The builder with one more principal. -/
def withPrincipal (b : RuleBuilder) (p : Principal) : RuleBuilder :=
  match p.kind with
  | .username => { b with username := some p.name }
  | .group => { b with group := some p.name }
  | .urn => { b with urn := some p.name }

/-- Whether two optional sections are the same. -/
def sameProperties : Option Properties → Option Properties → Bool
  | none, none => true
  | some p, some q => p.toValue.same q.toValue
  | _, _ => false

/-- Whether two builders are the same. -/
def same (b c : RuleBuilder) : Bool :=
  let sameScope := match b.environment, c.environment with
    | none, none => true
    | some e, some f => e.same f
    | _, _ => false
  b.resourceType == c.resourceType && sameScope && b.source == c.source && b.description == c.description
    && b.inclusive == c.inclusive && b.username == c.username && b.group == c.group && b.urn == c.urn
    && (Value.set b.allow).same (.set c.allow) && (Value.set b.deny).same (.set c.deny)
    && sameProperties b.matchers.regex c.matchers.regex && sameProperties b.matchers.contains c.matchers.contains
    && sameProperties b.matchers.equals c.matchers.equals && sameProperties b.matchers.subset c.matchers.subset

end RuleBuilder

/-- The builder that a rule is built by. -/
def Rule.toBuilder (r : Rule) : RuleBuilder :=
  let b : RuleBuilder := { resourceType := some r.resourceType, environment := some r.environment, source := r.source }
  { b with
    description := r.description, inclusive := r.inclusive, allow := r.allow, deny := r.deny, matchers := r.matchers
    : RuleBuilder }.withPrincipal r.principal

end AccessPolicy
