namespace AccessPolicy

/-- An attribute: the address that names the property, and its value. -/
structure Attribute where
  property : String
  value : String
deriving DecidableEq, Repr

namespace Attribute

/-- The namespace of the attributes that policies are about. -/
def standardBase : String := "http://dtolabs.com/rundeck/env/"

/-- The key of the attribute that names a project. -/
def projectKey : String := "project"

/-- The key of the attribute that names the application. -/
def applicationKey : String := "application"

/-- The attribute of a key in the standard namespace. -/
def ofKey (key value : String) : Attribute :=
  ⟨standardBase ++ key, value⟩

/-- The key of an attribute in a namespace, if it is in there. -/
def key? (base : String) (a : Attribute) : Option String :=
  let base := base.toList
  let property := a.property.toList
  if base.isPrefixOf property then some (String.ofList (property.drop base.length)) else none

/-- Whether an attribute may stand before another: sorted by property, then by value. -/
def notAfter (a b : Attribute) : Bool :=
  a.property < b.property || (a.property == b.property && !(b.value < a.value))

/-- An attribute as `key:value`, by its whole property outside of the namespace. -/
def text (base : String) (a : Attribute) : String :=
  (a.key? base).getD a.property ++ ":" ++ a.value

end Attribute

/-- Attributes in sorted order, as `key:value` each. -/
def attributesText (base : String) (attributes : List Attribute) : String :=
  String.intercalate ", " ((attributes.mergeSort Attribute.notAfter).map (Attribute.text base))

end AccessPolicy
