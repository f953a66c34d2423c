import AccessPolicy.Document.TextMap
import AccessPolicy.Value

namespace AccessPolicy

/-- The scope that a document declares. -/
structure DeclaredScope where
  project : Option String
  application : Option String
deriving DecidableEq, Repr

/-- The scope as messages show it. -/
def DeclaredScope.text (s : DeclaredScope) : String :=
  let part := fun (key : String) (value : Option String) => (value.map fun v => key ++ ": " ++ Text.quoted v).toList
  "\x7b" ++ String.intercalate ", " (part "project" s.project ++ part "application" s.application) ++ "\x7d"

/-- The principals that a document selects. What stands there is data of any kind; null means that nothing does. -/
structure Selector where
  username : Value
  group : Value
  urn : Value
deriving Inhabited, Repr

/-- Whether data is missing. -/
def Value.isNull : Value → Bool
  | .null => true
  | _ => false

/-- Whether nothing is selected. -/
def Selector.isEmpty (s : Selector) : Bool :=
  s.username.isNull && s.group.isNull && s.urn.isNull

/-- A map whose keys are texts. -/
abbrev Properties := List (String × Value)

/-- What the attributes of a resource have to be like: each section is optional. -/
structure Matchers where
  regex : Option Properties
  contains : Option Properties
  equals : Option Properties
  subset : Option Properties
deriving Inhabited, Repr

/-- One entry of the rules for a type of resource: what it allows and denies, and to which resources it applies. -/
structure Entry where
  allow : Value
  deny : Value
  matchers : Matchers
deriving Inhabited, Repr

/-- Whether an entry neither allows nor denies. -/
def Entry.isEmpty (e : Entry) : Bool :=
  e.allow.isNull && e.deny.isNull

/-- A policy document. It is about those that `included` selects, or about all but those that `excluded` does. -/
structure Document where
  description : Option String
  scope : Option DeclaredScope
  included : Option Selector
  excluded : Option Selector
  rules : Option (TextMap (List Entry))
deriving Inhabited, Repr

/-- Whether the document is about those that it selects. -/
def Document.isInclusive (d : Document) : Bool := d.included.isSome

/-- The selection that counts. -/
def Document.selector? (d : Document) : Option Selector := d.included.or d.excluded

/-- The entries for all types of resources. -/
def Document.entries (d : Document) : List (String × List Entry) := (d.rules.getD .empty).entries

end AccessPolicy
