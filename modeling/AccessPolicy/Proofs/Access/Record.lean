import AccessPolicy.Proofs.Access.Requests

namespace AccessPolicy.Access

/-- Something that a guard has asked, and what came of it: to retrieve the resource, to tell its project, to describe
it, to make a context, and to check. -/
inductive Event (Failure Subject Project Context Resource : Type) where
  | retrieved (found : Except Failure (Option Resource))
  | placed (resource : Resource) (place : Except Failure (Option Project))
  | described (resource : Resource) (target : Except Failure Target)
  | made (subject : Subject) (project : Option Project) (context : Except Failure Context)
  | checkedSystem (context : Context) (authority : Authority) (allowed : Except Failure Bool)
  | checkedProject (context : Context) (attributes : Value) (authority : Authority) (project : Project)
      (allowed : Except Failure Bool)

namespace Event

variable {Failure Subject Project Context Resource : Type}

/-- Whether the decider has been asked. -/
def consults : Event Failure Subject Project Context Resource → Bool
  | retrieved _ | placed .. | described .. => false
  | made .. | checkedSystem .. | checkedProject .. => true

/-- Whether the decider has been asked to check. -/
def checks : Event Failure Subject Project Context Resource → Bool
  | checkedSystem .. | checkedProject .. => true
  | _ => false

/-- Whether what has been asked has given an answer. -/
def answers : Event Failure Subject Project Context Resource → Bool
  | retrieved found => found.isOk
  | placed _ place => place.isOk
  | described _ target => target.isOk
  | made _ _ context => context.isOk
  | checkedSystem _ _ allowed | checkedProject _ _ _ _ allowed => allowed.isOk

/-- The check of a resource: in its project, or in the system if it has none or belongs to the system. -/
def checked (context : Context) (authority : Authority) (project : Option Project) (target : Target)
    (allowed : Except Failure Bool) : Event Failure Subject Project Context Resource :=
  match project, target.isSystem with
  | some project, false => checkedProject context target.attributes authority project allowed
  | _, _ => checkedSystem context authority allowed

end Event

section Recording

variable {World Failure Subject Project Context Resource Entry α β : Type}

/-- Something done in the world, of which a record is kept. -/
def Effect.recorded (effect : Effect World Failure α) (entry : Except Failure α → Entry) :
    Effect (World × List Entry) Failure α := fun w =>
  ((effect w.1).1, ((effect w.1).2, w.2 ++ [entry (effect w.1).1]))

theorem Effect.recorded_eq {effect : Effect World Failure α} (entry : Except Failure α → Entry)
    (log : List Entry) {world world' : World} {result : Except Failure α} (came : effect world = (result, world')) :
    effect.recorded entry (world, log) = (result, (world', log ++ [entry result])) := by
  rw [Effect.recorded, came]

/-- A guard that keeps a record. -/
def Guarded.recorded (g : Guarded World Failure Subject Project Context Resource) :
    Guarded (World × List (Event Failure Subject Project Context Resource)) Failure Subject Project Context
      Resource where
  label := g.label
  subject := g.subject
  decider :=
    { resolve := fun subject project => (g.decider.resolve subject project).recorded (.made subject project)
      checkSystem := fun context authority =>
        (g.decider.checkSystem context authority).recorded (.checkedSystem context authority)
      checkProject := fun context attributes authority project =>
        (g.decider.checkProject context attributes authority project).recorded
          (.checkedProject context attributes authority project) }
  retrieve := g.retrieve.recorded .retrieved
  project := fun resource => (g.project resource).recorded (.placed resource)
  keeps := g.keeps
  target := fun resource => (g.target resource).recorded (.described resource)

/-- How things stand, the record forgotten. -/
def Standing.forget (s : Standing (World × List Entry) Project Context) : Standing World Project Context :=
  ⟨s.world.1, s.contexts⟩

/-- A request that comes to the same as another, whatever record is kept. -/
def Request.Mirrors (x : Request (World × List Entry) Failure Project Context α)
    (y : Request World Failure Project Context α) : Prop :=
  ∀ s, y s.forget = ((x s).1, (x s).2.forget)

namespace Request.Mirrors

theorem bind {x : Request (World × List Entry) Failure Project Context α} {y : Request World Failure Project Context α}
    {f : α → Request (World × List Entry) Failure Project Context β} {h : α → Request World Failure Project Context β}
    (first : Mirrors x y) (rest : ∀ a, Mirrors (f a) (h a)) : Mirrors (x >>= f) (y >>= h) := by
  intro s
  have same := first s
  cases came : x s with
  | mk result t =>
    rw [came] at same
    cases result with
    | ok a => rw [Request.bind_ok same, Request.bind_ok came, rest a t]
    | error refusal => rw [Request.bind_error same, Request.bind_error came]

theorem pure (a : α) : Mirrors (Pure.pure a : Request (World × List Entry) Failure Project Context α) (Pure.pure a) :=
  fun _ => rfl

theorem inWorld (effect : Effect World Failure α) (entry : Except Failure α → Entry) :
    Mirrors (Guarded.inWorld (effect.recorded entry) : Request (World × List Entry) Failure Project Context α)
      (Guarded.inWorld effect) := by
  rintro ⟨⟨world, log⟩, contexts⟩
  cases came : effect world with
  | mk result world' =>
    have recorded := Effect.recorded_eq entry log came
    cases result with
    | ok a =>
      rw [Guarded.inWorld_ok (s := ⟨(world, log), contexts⟩) recorded]
      exact Guarded.inWorld_ok came
    | error f =>
      rw [Guarded.inWorld_error (s := ⟨(world, log), contexts⟩) recorded]
      exact Guarded.inWorld_error came

end Request.Mirrors

variable (g : Guarded World Failure Subject Project Context Resource)

theorem Guarded.check_recorded (context : Context) (authority : Authority) (project : Option Project)
    (target : Target) :
    g.recorded.check context authority project target =
      (g.check context authority project target).recorded (.checked context authority project target) := by
  obtain ⟨isSystem, attributes⟩ := target
  cases project <;> cases isSystem <;> rfl

variable [BEq Project]

theorem Guarded.context_mirrors (project : Option Project) :
    Request.Mirrors (g.recorded.context project) (g.context project) := by
  rintro ⟨⟨world, log⟩, contexts⟩
  by_cases kept : g.Keeps project
  · have kept' : g.recorded.Keeps project := kept
    cases known : contexts.find? project with
    | some c =>
      rw [context_found kept' known]
      exact context_found kept known
    | none =>
      cases came : g.decider.resolve g.subject project world with
      | mk result world' =>
        have recorded := Effect.recorded_eq (.made g.subject project) log came
        cases result with
        | ok c =>
          rw [context_made (s := ⟨(world, log), contexts⟩) kept' known recorded]
          exact context_made kept known came
        | error f =>
          rw [context_failed (s := ⟨(world, log), contexts⟩) kept' known recorded]
          exact context_failed kept known came
  · have unkept : ¬g.recorded.Keeps project := kept
    rw [context_unkept unkept]
    exact context_unkept kept

theorem Guarded.decide_mirrors (resource : Resource) (authority : Authority) :
    Request.Mirrors (g.recorded.decide resource authority) (g.decide resource authority) := by
  unfold Guarded.decide
  refine .bind (.inWorld _ _) fun project => .bind (.inWorld _ _) fun target => ?_
  obtain ⟨isSystem, attributes⟩ := target
  cases project <;> cases isSystem <;> exact .bind (g.context_mirrors _) fun context => .inWorld _ _

theorem Guarded.judge_mirrors (authority : Authority) :
    Request.Mirrors (g.recorded.judge authority) (g.judge authority) := by
  unfold Guarded.judge
  refine .bind (.inWorld _ _) fun found => ?_
  cases found with
  | none => exact fun s => rfl
  | some resource => exact .bind (g.decide_mirrors resource authority) fun allowed => .pure _

end Recording

/-- A call of a guard: whether any of some actions is allowed, for the resource if it is, for the resource at a level of
access that has a name, and the first two through an accessor that has been made for the actions. -/
inductive Ask where
  | authorize (authority : Authority)
  | access (authority : Authority)
  | level (name : Level)
  | accessorAllowed (authority : Authority)
  | accessorGet (authority : Authority)

/-- What a call gives. -/
inductive Reply (Resource : Type) where
  | allowed (allowed : Bool)
  | resource (resource : Resource)

namespace Ask

/-- The actions that a call asks for. -/
def authority : Ask → Authority
  | authorize authority | access authority | accessorAllowed authority | accessorGet authority => authority
  | level name => name.authority

/-- Whether a call asks for the resource. -/
def isForResource : Ask → Bool
  | authorize _ | accessorAllowed _ => false
  | access _ | level _ | accessorGet _ => true

variable {World Failure Subject Project Context Resource : Type} [BEq Project]

/-- A call of a guard as the request that it is. -/
def run (g : Guarded World Failure Subject Project Context Resource) :
    Ask → Request World Failure Project Context (Reply Resource)
  | authorize authority | accessorAllowed authority => return .allowed (← g.isAllowed authority)
  | access authority | accessorGet authority => return .resource (← g.obtain authority)
  | level name => return .resource (← g.obtain name.authority)

/-- What a call comes to when the decision about the resource is there. -/
def conclude (label : Label) (authority : Authority) (isForResource : Bool) :
    Except (Refusal Failure) (Bool × Resource) → Except (Refusal Failure) (Reply Resource)
  | .error refusal => .error refusal
  | .ok (allowed, resource) =>
    match isForResource, allowed with
    | false, allowed => .ok (.allowed allowed)
    | true, true => .ok (.resource resource)
    | true, false =>
      match authority.description? with
      | some action => .error (.denied (.unauthorized action label.resourceType label.identity))
      | none => .error .untold

variable {g : Guarded World Failure Subject Project Context Resource} {s t : Standing World Project Context}

theorem isAllowed_eq {authority : Authority} {verdict : Except (Refusal Failure) (Bool × Resource)}
    (judged : g.judge authority s = (verdict, t)) :
    (return .allowed (← g.isAllowed authority) : Request World Failure Project Context (Reply Resource)) s =
      (conclude g.label authority false verdict, t) := by
  cases verdict with
  | error refusal => exact Request.bind_error (Request.bind_error judged _) _
  | ok verdict => exact Request.bind_ok (Request.bind_ok judged _) _

theorem obtain_eq {authority : Authority} {verdict : Except (Refusal Failure) (Bool × Resource)}
    (judged : g.judge authority s = (verdict, t)) :
    (return .resource (← g.obtain authority) : Request World Failure Project Context (Reply Resource)) s =
      (conclude g.label authority true verdict, t) := by
  cases verdict with
  | error refusal => exact Request.bind_error (Request.bind_error judged _) _
  | ok verdict =>
    obtain ⟨allowed, resource⟩ := verdict
    cases allowed with
    | true =>
      have obtained : g.obtain authority s = (.ok resource, t) := Request.bind_ok judged _
      exact Request.bind_ok obtained _
    | false =>
      cases described : authority.description? with
      | some action =>
        simp only [conclude, described]
        exact Request.bind_error (Guarded.obtain_denied judged described) _
      | none =>
        simp only [conclude, described]
        exact Request.bind_error (Guarded.obtain_untold judged described) _

/-- Every call asks for the decision about the resource once, and concludes from it. -/
theorem run_eq {ask : Ask} {verdict : Except (Refusal Failure) (Bool × Resource)}
    (judged : g.judge ask.authority s = (verdict, t)) :
    ask.run g s = (conclude g.label ask.authority ask.isForResource verdict, t) := by
  cases ask with
  | authorize authority | accessorAllowed authority => exact isAllowed_eq judged
  | access authority | accessorGet authority => exact obtain_eq judged
  | level name => exact obtain_eq judged

end Ask

end AccessPolicy.Access
