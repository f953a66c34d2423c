import AccessPolicy.Attribute
import AccessPolicy.Pattern

namespace AccessPolicy

/-- What the value of an attribute has to be: a given text, or a text that a pattern fits. -/
inductive Criterion where
  | literal (value : String)
  | pattern (p : Pattern)

namespace Criterion

/-- The text of the criterion. -/
def value : Criterion → String
  | literal value => value
  | pattern p => p.source

/-- Whether the criterion is a pattern. -/
def isPattern : Criterion → Bool
  | literal _ => false
  | pattern _ => true

/-- Whether a value meets the criterion. -/
def accepts : Criterion → String → Except Pattern.Tangle Bool
  | literal value, text => .ok (text == value)
  | pattern p, text => p.fits text

end Criterion

/-- A scope: the key of an attribute in a namespace, and the criterion for its value. -/
structure Environment where
  key : String
  base : String
  criterion : Criterion

namespace Environment

/-- The text of the criterion. -/
def value (e : Environment) : String := e.criterion.value

/-- The address of the attribute. -/
def uri (e : Environment) : String := e.base ++ e.key

/-- Whether some attribute of a request is in the scope; the first one that is decides. -/
def includes (e : Environment) (request : List Attribute) : Except Pattern.Tangle Bool :=
  request.anyM fun a => if a.property = e.uri then e.criterion.accepts a.value else .ok false

/-- Whether two scopes count as the same. The namespace does not matter. -/
def same (e f : Environment) : Bool :=
  e.key == f.key && e.value == f.value && e.criterion.isPattern == f.criterion.isPattern

/-- Whether the scope is about projects. -/
def isProject (e : Environment) : Bool := e.key == Attribute.projectKey

/-- Whether the scope is about the application. -/
def isApplication (e : Environment) : Bool := e.key == Attribute.applicationKey

/-- The scope as messages and rules show it. -/
def text (e : Environment) : String :=
  e.key ++ ":" ++ e.value ++ (if e.criterion.isPattern then " (pattern)" else " (static)")

end Environment

end AccessPolicy
