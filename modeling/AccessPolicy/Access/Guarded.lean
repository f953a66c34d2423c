import AccessPolicy.Access.Decider

namespace AccessPolicy.Access

/-- What is said of a guarded resource: the name of its guard, its type, and its identifier if there can be several
of that type. -/
structure Label where
  guard : String
  resourceType : String
  identifier : Option Value
deriving Repr

/-- The identifier as text, null if there is none. -/
def Label.identity (l : Label) : Value :=
  match l.identifier with
  | none | some .null => .null
  | some v => .text v.plain

/-- The guard in short. -/
def Label.text (l : Label) : String :=
  let identifier := match l.identifier with
    | none => ""
    | some v => " " ++ v.expression
  "<" ++ l.guard ++ " " ++ l.resourceType ++ identifier ++ ">"

/-- A resource that a subject gets at through a decider. It is retrieved first, then the decider is asked once. Contexts are
kept for projects that can be told apart. -/
structure Guarded (World Failure Subject Project Context Resource : Type) where
  label : Label
  subject : Subject
  decider : Decider World Failure Subject Project Context
  retrieve : Effect World Failure (Option Resource)
  project : Resource → Effect World Failure (Option Project)
  keeps : Project → Bool
  target : Resource → Effect World Failure Target

/-- Why a request comes to nothing: it is denied, its actions cannot be told, no context can be kept for its
project, or something else has failed. -/
inductive Refusal (Failure : Type) where
  | denied (denial : Denial)
  | untold
  | unkept
  | failed (failure : Failure)

/-- How things stand: the world, and the contexts that have been made. -/
structure Standing (World Project Context : Type) where
  world : World
  contexts : Contexts Project Context

/-- What a request comes to. How things stand afterwards does not depend on whether it is refused. -/
abbrev Request (World Failure Project Context α : Type) :=
  ExceptT (Refusal Failure) (StateM (Standing World Project Context)) α

namespace Guarded

variable {World Failure Subject Project Context Resource : Type} [BEq Project]

/-- Something done in the world as part of a request. -/
def inWorld {α : Type} (effect : Effect World Failure α) : Request World Failure Project Context α := fun s =>
  match effect s.world with
  | (.ok a, world) => (.ok a, { s with world })
  | (.error failure, world) => (.error (.failed failure), { s with world })

/-- The context for a project, or for no project. It is made if there is none yet; a failure to make it leaves
none behind. -/
def context (g : Guarded World Failure Subject Project Context Resource) (project : Option Project) :
    Request World Failure Project Context Context := do
  if project.any fun p => !g.keeps p then throw .unkept
  match (← get).contexts.find? project with
  | some context => return context
  | none =>
    let context ← inWorld (g.decider.resolve g.subject project)
    modify fun s => { s with contexts := s.contexts.add project context }
    return context

/-- The decision about a resource: in the project that it belongs to, else in the system. -/
def decide (g : Guarded World Failure Subject Project Context Resource) (resource : Resource)
    (authority : Authority) : Request World Failure Project Context Bool := do
  let project ← inWorld (g.project resource)
  let target ← inWorld (g.target resource)
  match project, target.isSystem with
  | some project, false =>
    let context ← g.context (some project)
    inWorld (g.decider.checkProject context target.attributes authority project)
  | _, _ =>
    let context ← g.context none
    inWorld (g.decider.checkSystem context authority)

/-- The resource, and the decision about it. -/
def judge (g : Guarded World Failure Subject Project Context Resource) (authority : Authority) :
    Request World Failure Project Context (Bool × Resource) := do
  match ← inWorld g.retrieve with
  | none => throw (.denied (.notFound g.label.resourceType g.label.identity))
  | some resource => return (← g.decide resource authority, resource)

/-- Whether the subject may do any of some actions. -/
def isAllowed (g : Guarded World Failure Subject Project Context Resource) (authority : Authority) :
    Request World Failure Project Context Bool :=
  return (← g.judge authority).1

/-- The resource, if the subject may do any of some actions. -/
def obtain (g : Guarded World Failure Subject Project Context Resource) (authority : Authority) :
    Request World Failure Project Context Resource := do
  match ← g.judge authority with
  | (true, resource) => return resource
  | (false, _) =>
    match authority.description? with
    | some action => throw (.denied (.unauthorized action g.label.resourceType g.label.identity))
    | none => throw .untold

end Guarded

/-- Access by a fixed authority, in short; none if its actions cannot be told. -/
def Label.accessorText? (l : Label) (authority : Authority) : Option String :=
  authority.text?.map fun authority => "<Accessor " ++ l.text ++ " " ++ authority ++ ">"

end AccessPolicy.Access
