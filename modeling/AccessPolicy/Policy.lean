import AccessPolicy.Document.Violation
import AccessPolicy.Environment.Resolution
import AccessPolicy.Rule.Builder
import AccessPolicy.Rule.Collected

namespace AccessPolicy

/-- Why the principals of a document cannot be used. -/
inductive PrincipalFault where
  | item (kind : PrincipalKind) (found : String)
  | shape (kind : PrincipalKind) (found : String)
  | none (inclusive : Bool)
deriving DecidableEq, Repr

/-- The wording of a fault. -/
def PrincipalFault.message : PrincipalFault → String
  | item kind found =>
    Document.sectionText kind.text ++ " should contain only Strings, but saw a: " ++ found
  | shape kind found => Document.sectionText kind.text ++ " should be a list or a String, but it was: " ++ found
  | none inclusive =>
    Document.sectionText (if inclusive then "by" else "notBy")
      ++ " is not valid: it must contain at least one 'group:', 'username:' or 'urn:' value"

/-- Why a document comes to no policy: it is not valid, it has no scope, its principals cannot be used, a grant is
nothing that holds actions, or a rule cannot be built. -/
inductive PolicyFault where
  | form (violation : Document.Violation)
  | scope (fault : Environment.ScopeFault)
  | principals (fault : PrincipalFault)
  | grant
  | rule (fault : BuildFault)
deriving DecidableEq, Repr

/-- The wording of a fault. -/
def PolicyFault.message : PolicyFault → String
  | form violation => violation.message
  | scope fault => fault.message
  | principals fault => fault.message
  | grant => "a grant is no collection of actions"
  | rule fault => fault.message

/-- Whether a fault is one of the policy's form. Faults of this kind are told and the rest goes on; others end
everything. -/
def PolicyFault.isFormal : PolicyFault → Bool
  | scope (.pattern _ _ fault) => fault.isFormal
  | grant | rule (.matchers _) => false
  | _ => true

/-- The names in a list, each of which has to be a text. -/
def textItems (kind : PrincipalKind) : List Value → Except PrincipalFault (List String)
  | [] => .ok []
  | .text s :: rest => (textItems kind rest).map (s :: ·)
  | v :: _ => .error (.item kind v.kind)

/-- The names that a part of a selection gives. -/
def principalNames (kind : PrincipalKind) : Value → Except PrincipalFault (List String)
  | .null => .ok []
  | .text s => .ok [s]
  | .list items | .tuple items | .set items => textItems kind items
  | v => .error (.shape kind v.kind)

/-- Names in sorted order, each once. -/
def sortedNames (names : List String) : List String :=
  names.eraseDups.mergeSort fun a b => !(b < a)

/-- The principals of a policy, sorted by kind and name. -/
structure Principals where
  usernames : List String
  groups : List String
  urns : List String
deriving DecidableEq, Repr

/-- All principals. -/
def Principals.all (p : Principals) : List Principal :=
  p.usernames.map (Principal.mk .username) ++ p.groups.map (Principal.mk .group) ++ p.urns.map (Principal.mk .urn)

/-- The principals of a document, of which there has to be one. -/
def Document.principals (d : Document) : Except PrincipalFault Principals := do
  let s := d.selector?.getD ⟨.null, .null, .null⟩
  let usernames ← principalNames .username s.username
  let groups ← principalNames .group s.group
  let urns ← principalNames .urn s.urn
  if usernames.isEmpty && groups.isEmpty && urns.isEmpty then throw (.none d.isInclusive)
  return ⟨sortedNames usernames, sortedNames groups, sortedNames urns⟩

/-- The builder of all rules of a document. -/
def Document.prototype (d : Document) (environment : Environment) (source : String) : RuleBuilder :=
  { environment := some environment, source, description := d.description, inclusive := d.isInclusive }

/-- The rule of one entry, which is counted from one. -/
def Entry.rule (e : Entry) (index : Nat) (b : RuleBuilder) : Except PolicyFault Rule := do
  let b := b.extendSource s!"[rule:{index}]"
  match Actions.ofGrant? e.allow, Actions.ofGrant? e.deny with
  | some allow, some deny =>
    match ({ b with allow, deny, matchers := e.matchers } : RuleBuilder).build with
    | .ok r => return r
    | .error fault => throw (.rule fault)
  | _, _ => throw .grant

/-- The rules of the entries for a type. -/
def typeRules (type : String) (entries : List Entry) (b : RuleBuilder) : Except PolicyFault (List Rule) :=
  let b := { b.extendSource ("[type:" ++ type ++ "]") with resourceType := some type }
  entries.zipIdx.mapM fun (e, i) => e.rule (i + 1) b

/-- The rules of a document for some principals: one for each principal and each entry. -/
def Document.expand (d : Document) (environment : Environment) (source : String) (principals : List Principal) :
    Except PolicyFault RuleSet := do
  let prototype := d.prototype environment source
  let rules ← principals.mapM fun p =>
    d.entries.mapM fun (type, entries) => typeRules type entries (prototype.withPrincipal p)
  return .ofList rules.flatten.flatten

/-- A policy: a document and what it comes to. The index counts the documents of a source from one. -/
structure Policy where
  document : Document
  source : String
  index : Int
  environment : Environment
  principals : Principals
  rules : RuleSet

namespace Policy

/-- The policy of a document, in the scope that the caller pins or else in the one it declares. -/
def ofDocument (d : Document) (source : String) (index : Int) (pinned : Option (List Attribute)) :
    Except PolicyFault Policy := do
  if let some violation := d.violation? then throw (.form violation)
  let environment ← (Environment.resolve pinned Attribute.standardBase d).mapError .scope
  let principals ← d.principals.mapError .principals
  let rules ← d.expand environment source principals.all
  return ⟨d, source, index, environment, principals, rules⟩

/-- The policy in short. -/
def text (p : Policy) : String :=
  s!"<YamlPolicy {Text.quoted p.source} rules={p.rules.size} environment={p.environment.text}>"

end Policy

end AccessPolicy
