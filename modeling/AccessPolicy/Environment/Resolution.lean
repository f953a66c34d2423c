import AccessPolicy.Document
import AccessPolicy.Environment

namespace AccessPolicy.Environment

/-- Why a document has no scope. -/
inductive ScopeFault where
  | pattern (key value : String) (fault : Pattern.Fault)
  | pinned (base : String) (attributes : List Attribute)
  | undeclared
  | notOne (declared : DeclaredScope)
  | noneInside (base : String)
  | severalInside (base : String) (attributes : List Attribute)
deriving DecidableEq, Repr

/-- The wording of a fault. -/
def ScopeFault.message : ScopeFault → String
  | pattern key value fault =>
    "Context section: " ++ key ++ ": invalid regular expression " ++ Text.quoted value ++ ": "
      ++ fault.message value.toList
  | pinned base attributes =>
    "Context section should not be specified, it is already set to: " ++ attributesText base attributes
  | undeclared => "Required 'context:' section was not present"
  | notOne declared =>
    "Context section is not valid: " ++ declared.text
      ++ ", it should have only one entry: 'application:' or 'project:'"
  | noneInside base =>
    "Context section is not valid: no attribute in namespace " ++ Text.quoted base ++ " was given"
  | severalInside base attributes =>
    "Context section is not valid: expected exactly one entry, but was: " ++ attributesText base attributes

/-- A scope whose value is a pattern. -/
def ofPattern (key value base : String) : Except ScopeFault Environment :=
  match Pattern.ofText value with
  | .ok p => .ok ⟨key, base, .pattern p⟩
  | .error fault => .error (.pattern key value fault)

/-- A scope whose value stands for itself. -/
def ofLiteral (key value base : String) : Environment :=
  ⟨key, base, .literal value⟩

/-- The scope that a document declares. -/
def ofDeclared (base : String) (declared : DeclaredScope) : Except ScopeFault Environment :=
  match declared.project, declared.application with
  | some project, none => ofPattern Attribute.projectKey project base
  | none, some application => ofPattern Attribute.applicationKey application base
  | _, _ => .error (.notOne declared)

/-- Gives a key a value: in place if the key is there, else at the end. -/
def setKey (key value : String) : List (String × String) → List (String × String)
  | [] => [(key, value)]
  | (k, v) :: rest => if k = key then (k, value) :: rest else (k, v) :: setKey key value rest

/-- What pinned attributes come to: the last value of each key in the namespace, and the keys some value of which
is a pattern. -/
structure Pins where
  values : List (String × String)
  patterns : List String
deriving Repr

/-- Takes one attribute into account. A value that is no pattern is still a value; one that is beyond what
patterns are checked for is a fault. -/
def Pins.add (base : String) (pins : Pins) (a : Attribute) : Except ScopeFault Pins :=
  match a.key? base with
  | none => .ok pins
  | some key =>
    let values := setKey key a.value pins.values
    match Pattern.ofText a.value with
    | .ok _ => .ok ⟨values, key :: pins.patterns⟩
    | .error fault => if fault.isFormal then .ok ⟨values, pins.patterns⟩ else .error (.pattern key a.value fault)

/-- The scope that pinned attributes stand for. -/
def ofAttributes (base : String) (attributes : List Attribute) : Except ScopeFault Environment := do
  let pins ← attributes.foldlM (Pins.add base) ⟨[], []⟩
  match pins.values with
  | [] => throw (.noneInside base)
  | [(key, value)] =>
    if pins.patterns.contains key then ofPattern key value base else return ofLiteral key value base
  | _ => throw (.severalInside base attributes)

/-- The scope of a document, given what the caller pins. What is pinned may not be declared as well. -/
def resolve (pinned : Option (List Attribute)) (base : String) (d : Document) : Except ScopeFault Environment :=
  match pinned, d.scope with
  | some attributes, some _ => .error (.pinned base attributes.eraseDups)
  | some attributes, none => ofAttributes base attributes.eraseDups
  | none, none => .error .undeclared
  | none, some declared => ofDeclared base declared

end AccessPolicy.Environment
