import AccessPolicy.Access.Guarded

namespace AccessPolicy.Access

instance partialEquivBEqOption {Project : Type} [BEq Project] [PartialEquivBEq Project] :
    PartialEquivBEq (Option Project) where
  symm {p q} same := by
    cases p <;> cases q
    case some.some p q => exact PartialEquivBEq.symm (α := Project) same
    all_goals simp_all
  trans {p q r} first second := by
    cases p <;> cases q <;> cases r
    case some.some.some p q r => exact PartialEquivBEq.trans (α := Project) first second
    all_goals simp_all

variable {World Failure Subject Project Context Resource α β : Type} {s t : Standing World Project Context}
  {world : World}

namespace Request

theorem bind_ok {x : Request World Failure Project Context α} {a : α} (first : x s = (.ok a, t))
    (f : α → Request World Failure Project Context β) : (x >>= f) s = f a t := by
  simp [bind, ExceptT.bind, ExceptT.mk, ExceptT.bindCont, StateT.bind, first]

theorem bind_error {x : Request World Failure Project Context α} {refusal : Refusal Failure}
    (first : x s = (.error refusal, t)) (f : α → Request World Failure Project Context β) :
    (x >>= f) s = (.error refusal, t) := by
  simp only [bind, ExceptT.bind, ExceptT.mk, ExceptT.bindCont, StateT.bind, first]
  rfl

theorem bind_congr {x y : Request World Failure Project Context α} (same : x s = y t)
    (f : α → Request World Failure Project Context β) : (x >>= f) s = (y >>= f) t := by
  simp only [bind, ExceptT.bind, ExceptT.mk, StateT.bind, same]

end Request

namespace Guarded

theorem inWorld_ok {effect : Effect World Failure α} {a : α} (came : effect s.world = (.ok a, world)) :
    inWorld effect s = (.ok a, { s with world }) := by
  rw [inWorld, came]

theorem inWorld_error {effect : Effect World Failure α} {f : Failure} (came : effect s.world = (.error f, world)) :
    inWorld effect s = (.error (.failed f), { s with world }) := by
  rw [inWorld, came]

variable {g : Guarded World Failure Subject Project Context Resource} {project : Option Project}

/-- Whether a context can be kept for a project. For no project there always can. -/
def Keeps (g : Guarded World Failure Subject Project Context Resource) (project : Option Project) : Prop :=
  ∀ p, project = some p → g.keeps p = true

variable [BEq Project]

theorem context_unkept (unkept : ¬g.Keeps project) : g.context project s = (.error .unkept, s) := by
  obtain ⟨p, rfl, refused⟩ : ∃ p, project = some p ∧ g.keeps p = false := by simpa [Keeps] using unkept
  simp only [context, Option.any_some, refused, Bool.not_false, if_true]
  rfl

theorem context_kept (kept : g.Keeps project) :
    g.context project s = (match s.contexts.find? project with
      | some context => pure context
      | none => do
        let context ← inWorld (g.decider.resolve g.subject project)
        modify fun s => { s with contexts := s.contexts.add project context }
        return context : Request World Failure Project Context Context) s := by
  have unrefused : (project.any fun p => !g.keeps p) = false := by
    cases project with
    | none => rfl
    | some p => simp [kept p rfl]
  have got : (get : Request World Failure Project Context _) s = (.ok s, s) := rfl
  simp only [context, unrefused, Bool.false_eq_true, if_false]
  refine (Request.bind_ok got _).trans ?_
  cases s.contexts.find? project <;> rfl

theorem context_found (kept : g.Keeps project) {c : Context} (known : s.contexts.find? project = some c) :
    g.context project s = (.ok c, s) := by
  rw [context_kept kept, known]
  rfl

theorem context_made (kept : g.Keeps project) (new : s.contexts.find? project = none) {c : Context}
    (made : g.decider.resolve g.subject project s.world = (.ok c, world)) :
    g.context project s = (.ok c, ⟨world, s.contexts.add project c⟩) := by
  rw [context_kept kept, new]
  exact Request.bind_ok (inWorld_ok made) _

theorem context_failed (kept : g.Keeps project) (new : s.contexts.find? project = none) {f : Failure}
    (failed : g.decider.resolve g.subject project s.world = (.error f, world)) :
    g.context project s = (.error (.failed f), { s with world }) := by
  rw [context_kept kept, new]
  exact Request.bind_error (inWorld_error failed) _

/-- The project in whose context a resource is decided about. For what belongs to the system there is none. -/
def scope (project : Option Project) (target : Target) : Option Project :=
  match project, target.isSystem with
  | some project, false => some project
  | _, _ => none

/-- What the decider is asked about a resource. -/
def check (g : Guarded World Failure Subject Project Context Resource) (context : Context) (authority : Authority)
    (project : Option Project) (target : Target) : Effect World Failure Bool :=
  match project, target.isSystem with
  | some project, false => g.decider.checkProject context target.attributes authority project
  | _, _ => g.decider.checkSystem context authority

section Judging

variable {r : Resource} {authority : Authority} {f : Failure} {place : Option Project} {target : Target}
  {world' : World}

theorem decide_unplaced (placed : g.project r s.world = (.error f, world)) :
    g.decide r authority s = (.error (.failed f), { s with world }) :=
  Request.bind_error (inWorld_error placed) _

theorem decide_undescribed (placed : g.project r s.world = (.ok place, world))
    (described : g.target r world = (.error f, world')) :
    g.decide r authority s = (.error (.failed f), { s with world := world' }) :=
  (Request.bind_ok (inWorld_ok placed) _).trans (Request.bind_error (inWorld_error described) _)

theorem decide_described (authority : Authority) (placed : g.project r s.world = (.ok place, world))
    (described : g.target r world = (.ok target, world')) :
    g.decide r authority s = (g.context (scope place target) >>= fun context =>
      inWorld (g.check context authority place target)) { s with world := world' } := by
  refine (Request.bind_ok (inWorld_ok placed) _).trans ((Request.bind_ok (inWorld_ok described) _).trans ?_)
  obtain ⟨isSystem, attributes⟩ := target
  cases place <;> cases isSystem <;> rfl

theorem judge_unretrieved (retrieved : g.retrieve s.world = (.error f, world)) :
    g.judge authority s = (.error (.failed f), { s with world }) :=
  Request.bind_error (inWorld_error retrieved) _

theorem judge_missing (retrieved : g.retrieve s.world = (.ok none, world)) :
    g.judge authority s =
      (.error (.denied (.notFound g.label.resourceType g.label.identity)), { s with world }) :=
  Request.bind_ok (inWorld_ok retrieved) _

theorem judge_retrieved (retrieved : g.retrieve s.world = (.ok (some r), world)) :
    g.judge authority s = (g.decide r authority >>= fun allowed => pure (allowed, r)) { s with world } :=
  Request.bind_ok (inWorld_ok retrieved) _

theorem obtain_denied (judged : g.judge authority s = (.ok (false, r), t)) {action : String}
    (described : authority.description? = some action) :
    g.obtain authority s =
      (.error (.denied (.unauthorized action g.label.resourceType g.label.identity)), t) := by
  refine (Request.bind_ok judged _).trans ?_
  simp only [described]
  rfl

theorem obtain_untold (judged : g.judge authority s = (.ok (false, r), t)) (untold : authority.description? = none) :
    g.obtain authority s = (.error .untold, t) := by
  refine (Request.bind_ok judged _).trans ?_
  simp only [untold]
  rfl

end Judging

end Guarded

/-- Actions that are all texts. -/
def AreTexts (actions : List Value) : Prop := ∀ v ∈ actions, ∃ s, v = .text s

theorem insertInOrder_texts (name : String) {sorted : List Value} (texts : AreTexts sorted) :
    ∃ sorted', Value.insertInOrder (.text name) sorted = some sorted' ∧ AreTexts sorted' := by
  induction sorted with
  | nil => exact ⟨[.text name], rfl, by simp [AreTexts]⟩
  | cons v rest ih =>
    obtain ⟨s, rfl⟩ := texts v (List.mem_cons_self ..)
    obtain ⟨rest', inserted, restTexts⟩ := ih fun w member => texts w (List.mem_cons_of_mem _ member)
    obtain ⟨less, compared⟩ : ∃ less, Value.less? (.text name) (.text s) = some less := ⟨_, rfl⟩
    cases less with
    | true =>
      refine ⟨.text name :: .text s :: rest, by simp [Value.insertInOrder, compared], fun w member => ?_⟩
      rcases List.mem_cons.mp member with rfl | old
      · exact ⟨name, rfl⟩
      · exact texts w old
    | false =>
      refine ⟨.text s :: rest', by simp [Value.insertInOrder, compared, inserted], fun w member => ?_⟩
      rcases List.mem_cons.mp member with rfl | later
      · exact ⟨s, rfl⟩
      · exact restTexts w later

/-- Actions that are texts can be told. -/
theorem Authority.exists_description {authority : Authority} (texts : AreTexts authority.actions) :
    ∃ action, authority.description? = some action := by
  have sorted : ∀ (items done : List Value), AreTexts items → AreTexts done →
      ∃ sorted, items.foldlM (fun sorted v => Value.insertInOrder v sorted) done = some sorted ∧ AreTexts sorted := by
    intro items
    induction items with
    | nil => exact fun done _ doneTexts => ⟨done, rfl, doneTexts⟩
    | cons v rest ih =>
      intro done itemTexts doneTexts
      obtain ⟨s, rfl⟩ := itemTexts v (List.mem_cons_self ..)
      obtain ⟨next, inserted, nextTexts⟩ := insertInOrder_texts s doneTexts
      have restTexts : AreTexts rest := fun w member => itemTexts w (List.mem_cons_of_mem _ member)
      obtain ⟨last, folded, lastTexts⟩ := ih next restTexts nextTexts
      exact ⟨last, by simp [inserted, folded], lastTexts⟩
  have named : ∀ items : List Value, AreTexts items → ∃ names, items.mapM Authority.name? = some names := by
    intro items itemTexts
    induction items with
    | nil => exact ⟨[], rfl⟩
    | cons v rest ih =>
      obtain ⟨s, rfl⟩ := itemTexts v (List.mem_cons_self ..)
      obtain ⟨names, mapped⟩ := ih fun w member => itemTexts w (List.mem_cons_of_mem _ member)
      exact ⟨s :: names, by simp [Authority.name?, mapped]⟩
  obtain ⟨inOrder, sort, orderTexts⟩ := sorted authority.actions [] texts (by simp [AreTexts])
  obtain ⟨names, mapped⟩ := named inOrder orderTexts
  refine ⟨String.intercalate "|" names, ?_⟩
  have told : authority.sorted? = some inOrder := sort
  simp [Authority.description?, told, mapped]

end AccessPolicy.Access
