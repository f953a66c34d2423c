import AccessPolicy.Attribute
import AccessPolicy.Collection.Folder

namespace AccessPolicy

/-- The name and the state of the engine, with its defaults. -/
structure About where
  title : String
  version : String
  terms : String
  base : String
  extension : String
  workers : Nat
deriving DecidableEq, Repr

/-- This engine. -/
def about : About :=
  ⟨"aclengine", "0.4.1", "MIT", Attribute.standardBase, Folder.policyExtension, 4⟩

end AccessPolicy
