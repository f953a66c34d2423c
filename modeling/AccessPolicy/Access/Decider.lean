import AccessPolicy.Access.Authority
import AccessPolicy.Value

namespace AccessPolicy.Access

/-- Something done in the world. It may fail, and it may change the world in either case. -/
abbrev Effect (World Failure α : Type) := ExceptT Failure (StateM World) α

/-- A decider makes a context for a subject in a project or in none, and answers in that context whether any of some actions
is allowed. -/
structure Decider (World Failure Subject Project Context : Type) where
  resolve : Subject → Option Project → Effect World Failure Context
  checkSystem : Context → Authority → Effect World Failure Bool
  checkProject : Context → Value → Authority → Project → Effect World Failure Bool

/-- The decider that always gives the same answer. Its contexts are the subjects themselves. -/
def Decider.constant {World Failure Subject Project : Type} (allowed : Bool) :
    Decider World Failure Subject Project Subject where
  resolve subject _ := return subject
  checkSystem _ _ := return allowed
  checkProject _ _ _ _ := return allowed

/-- What a decision is about: the system, or something in a project that has attributes. -/
structure Target where
  isSystem : Bool
  attributes : Value
deriving Repr

/-- The resource is not there, or the subject may not act on it as asked. What has no identifier has null. -/
inductive Denial where
  | notFound (resourceType : String) (identifier : Value)
  | unauthorized (action resourceType : String) (identifier : Value)
deriving Repr

/-- An identifier behind given words; nothing if there is none. -/
def identifierText (lead : String) : Value → String
  | .null => ""
  | identifier => lead ++ identifier.plain

/-- The wording of a denial. -/
def Denial.message : Denial → String
  | notFound resourceType identifier => "Not found: " ++ resourceType ++ identifierText " with ID: " identifier
  | unauthorized action resourceType identifier =>
    "Unauthorized for " ++ action ++ " access to " ++ resourceType ++ identifierText " " identifier

/-- The contexts that have been made for one subject, by project, the oldest first; one may be for no project. -/
structure Contexts (Project Context : Type) where
  entries : List (Option Project × Context)

namespace Contexts

variable {Project Context : Type} [BEq Project]

/-- No contexts. -/
def empty : Contexts Project Context := ⟨[]⟩

/-- The context for a project. -/
def find? (known : Contexts Project Context) (project : Option Project) : Option Context :=
  (known.entries.find? fun entry => entry.1 == project).map Prod.snd

/-- The contexts with one more. -/
def add (known : Contexts Project Context) (project : Option Project) (context : Context) :
    Contexts Project Context :=
  ⟨known.entries ++ [(project, context)]⟩

theorem find?_add (known : Contexts Project Context) (added project : Option Project) (context : Context) :
    (known.add added context).find? project =
      (known.find? project).or (if added == project then some context else none) := by
  rw [find?, find?, add, List.find?_append]
  cases known.entries.find? fun entry => entry.1 == project with
  | some entry => rfl
  | none => cases same : added == project <;> simp [same]

end Contexts

end AccessPolicy.Access
