import AccessPolicy.Value.Members

namespace AccessPolicy.Access

/-- Actions of which there is at least one, each once. Any one of them gives access. -/
structure Authority where
  actions : List Value
  isInhabited : actions ≠ []
deriving Repr

namespace Authority

/-- Why data is no authority: it holds nothing at all, or it is not a collection of things that can be in a set. -/
inductive Fault where
  | noAction
  | noCollection
deriving DecidableEq, Repr

/-- The wording of a fault. -/
def Fault.message : Fault → String
  | noAction => "AuthActions requires at least one action"
  | noCollection => "actions have to be a collection"

/-- The authority of a list of actions. -/
def ofActions (actions : List Value) : Except Fault Authority :=
  if h : actions = [] then .error .noAction else .ok ⟨actions, h⟩

/-- The authority that data stands for: what the data holds, so that a text stands for its characters. -/
def ofValue (v : Value) : Except Fault Authority :=
  match v.members?.bind Value.setOf? with
  | some actions => ofActions actions
  | none => .error .noCollection

/-- The authority of actions that are given by name. -/
def ofNames (first : String) (rest : List String) : Authority :=
  ⟨.text first :: rest.map .text, List.cons_ne_nil _ _⟩

/-- The actions of either authority. -/
def union (a b : Authority) : Authority :=
  ⟨a.actions ++ b.actions.filter fun v => !a.actions.any v.same, by simp [a.isInhabited]⟩

/-- Whether an action is among the actions; none if it could be in no set. -/
def contains? (a : Authority) (action : Value) : Option Bool :=
  if action.isMember then some (a.actions.any action.same) else none

/-- Whether two authorities have the same actions. -/
def same (a b : Authority) : Bool := (Value.set a.actions).same (.set b.actions)

/-- The actions in sorted order; none if two of them have no order. -/
def sorted? (a : Authority) : Option (List Value) := Value.sort? a.actions

/-- The text of data that is a text. -/
def name? : Value → Option String
  | .text s => some s
  | _ => none

/-- The actions by name, in sorted order; none if one of them is no text. -/
def description? (a : Authority) : Option String := do
  return String.intercalate "|" (← (← a.sorted?).mapM name?)

/-- The authority in short. -/
def text? (a : Authority) : Option String :=
  a.description?.map fun description => "AuthActions(" ++ description ++ ")"

end Authority

/-- The levels of access that have a name. To delete is a level of its own, which no administrator has as such. -/
inductive Level where
  | read
  | appAdmin
  | opsAdmin
  | delete
deriving DecidableEq, Repr

/-- The actions that give a level of access. -/
def Level.authority : Level → Authority
  | read => .ofNames "read" ["admin", "app_admin"]
  | appAdmin => .ofNames "admin" ["app_admin"]
  | opsAdmin => .ofNames "admin" ["ops_admin"]
  | delete => .ofNames "delete" []

end AccessPolicy.Access
