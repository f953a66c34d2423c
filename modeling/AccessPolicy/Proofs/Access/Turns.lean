import AccessPolicy.Proofs.Access.Requests
import Mathlib.Logic.Function.Basic
import Mathlib.Logic.Relation

namespace AccessPolicy.Access

/-- How far a caller has come: it has not called yet, it waits for its turn, its context is being made, it has its
answer, or it has gone away while it waited. -/
inductive Point (Failure Context : Type) where
  | arriving
  | waiting
  | making
  | done (answer : Except (Refusal Failure) Context)
  | gone

/-- Callers of one guard: where each of them is, how things stand, whether it is anybody's turn, who waits in which
order, and the calls of the decider that have come to an end, the oldest first. -/
structure Turns (ι World Failure Project Context : Type) where
  point : ι → Point Failure Context
  standing : Standing World Project Context
  locked : Bool
  queue : List ι
  calls : List (ι × Except Failure Context)

namespace Turns

variable {ι World Failure Subject Project Context Resource : Type}

/-- At the start nobody has called, and there are no contexts. -/
def start (world : World) : Turns ι World Failure Project Context :=
  ⟨fun _ => .arriving, ⟨world, .empty⟩, false, [], []⟩

/-- The calls of the decider that have made a context: for which project, and which. -/
def made (wanted : ι → Option Project) (s : Turns ι World Failure Project Context) : List (Option Project × Context) :=
  s.calls.filterMap fun call => call.2.toOption.map fun context => (wanted call.1, context)

section Order

variable [BEq Project] {wanted : ι → Option Project} {s : Turns ι World Failure Project Context} {i : ι}

/-- What callers keep to. Whoever has its context made is alone and has the turn, and there is none for its project yet;
the contexts are those that calls have made, one for each project; and every answer is the context that is there. -/
structure Orderly (wanted : ι → Option Project) (s : Turns ι World Failure Project Context) : Prop where
  held : s.locked = true ↔ ∃ i, s.point i = .making
  alone : ∀ i j, s.point i = .making → s.point j = .making → i = j
  new : ∀ i, s.point i = .making → s.standing.contexts.find? (wanted i) = none
  queued : ∀ i, i ∈ s.queue ↔ s.point i = .waiting
  once : s.queue.Nodup
  made : s.standing.contexts.entries = s.made wanted
  distinct : s.standing.contexts.entries.Pairwise fun a b => ¬(a.1 == b.1) = true
  answered : ∀ i c, s.point i = .done (.ok c) → s.standing.contexts.find? (wanted i) = some c
  told : ∀ i o, (i, o) ∈ s.calls → s.point i = .done (o.mapError .failed)

theorem start_orderly (world : World) :
    (start world : Turns ι World Failure Project Context).Orderly wanted where
  held := by simp [start]
  alone i j making := by cases making
  new i making := by cases making
  queued i := by simp [start]
  once := .nil
  made := rfl
  distinct := .nil
  answered i c answered := by cases answered
  told i o member := by cases member

theorem Orderly.not_mem_queue (orderly : s.Orderly wanted) (point : s.point i ≠ .waiting) : i ∉ s.queue :=
  fun member => point ((orderly.queued i).mp member)

theorem Orderly.first (orderly : s.Orderly wanted) {rest : List ι} (first : s.queue = i :: rest) :
    s.point i = .waiting ∧ i ∉ rest ∧ rest.Nodup := by
  have once := orderly.once
  rw [first] at once
  exact ⟨(orderly.queued i).mp (by simp [first]), List.nodup_cons.mp once⟩

theorem Orderly.ne_of_mem_calls (orderly : s.Orderly wanted) (making : s.point i = .making) {j : ι}
    {o : Except Failure Context} (member : (j, o) ∈ s.calls) : j ≠ i := by
  rintro rfl
  have point := orderly.told j o member
  rw [making] at point
  cases point

end Order

variable [DecidableEq ι]

/-- A caller gets to another point, and others wait than before. -/
def move (s : Turns ι World Failure Project Context) (i : ι) (p : Point Failure Context) (queue : List ι) :
    Turns ι World Failure Project Context :=
  { s with point := Function.update s.point i p, queue }

/-- Only who moves gets to another point. -/
theorem eq_of_update {point : ι → Point Failure Context} {p q : Point Failure Context} {i j : ι}
    (before : point i ≠ q) (after : Function.update point j p i = q) : j = i ∧ p = q := by
  by_cases same : i = j
  · subst same
    exact ⟨rfl, by simpa using after⟩
  · rw [Function.update_of_ne same] at after
    exact absurd after before

/-- A caller gets its turn. -/
def grant (s : Turns ι World Failure Project Context) (i : ι) (queue : List ι) :
    Turns ι World Failure Project Context :=
  { s.move i .making queue with locked := true }

/-- A call of the decider comes to an end, and the caller has its answer and leaves its turn. -/
def settle (s : Turns ι World Failure Project Context) (i : ι) (came : Except Failure Context)
    (answer : Except (Refusal Failure) Context) (standing : Standing World Project Context) :
    Turns ι World Failure Project Context :=
  { s.move i (.done answer) s.queue with standing, locked := false, calls := s.calls ++ [(i, came)] }

variable [BEq Project]

/-- What one caller does between two moments at which others may come in between. Whoever arrives while it is anybody's
turn, or while others wait, waits behind them. A call of the decider begins with a turn, and what it gives is told when
it ends; in the meantime anything may have happened in the world. -/
inductive Step (g : Guarded World Failure Subject Project Context Resource) (wanted : ι → Option Project) :
    Turns ι World Failure Project Context → Turns ι World Failure Project Context → Prop
  | refused {s : Turns ι World Failure Project Context} {i : ι} (arriving : s.point i = .arriving)
      (unkept : ¬g.Keeps (wanted i)) : Step g wanted s (s.move i (.done (.error .unkept)) s.queue)
  | found {s : Turns ι World Failure Project Context} {i : ι} {c : Context} (arriving : s.point i = .arriving)
      (kept : g.Keeps (wanted i)) (known : s.standing.contexts.find? (wanted i) = some c) :
      Step g wanted s (s.move i (.done (.ok c)) s.queue)
  | queued {s : Turns ι World Failure Project Context} {i : ι} (arriving : s.point i = .arriving)
      (kept : g.Keeps (wanted i)) (new : s.standing.contexts.find? (wanted i) = none)
      (busy : s.locked = true ∨ s.queue ≠ []) : Step g wanted s (s.move i .waiting (s.queue ++ [i]))
  | entered {s : Turns ι World Failure Project Context} {i : ι} (arriving : s.point i = .arriving)
      (kept : g.Keeps (wanted i)) (new : s.standing.contexts.find? (wanted i) = none) (free : s.locked = false)
      (nobody : s.queue = []) : Step g wanted s (s.grant i [])
  | left {s : Turns ι World Failure Project Context} {i : ι} (waiting : s.point i = .waiting) :
      Step g wanted s (s.move i .gone (s.queue.erase i))
  | foundInTurn {s : Turns ι World Failure Project Context} {i : ι} {rest : List ι} {c : Context}
      (first : s.queue = i :: rest) (free : s.locked = false)
      (known : s.standing.contexts.find? (wanted i) = some c) : Step g wanted s (s.move i (.done (.ok c)) rest)
  | turn {s : Turns ι World Failure Project Context} {i : ι} {rest : List ι} (first : s.queue = i :: rest)
      (free : s.locked = false) (new : s.standing.contexts.find? (wanted i) = none) :
      Step g wanted s (s.grant i rest)
  | made {s : Turns ι World Failure Project Context} {i : ι} {c answer : Context} {world : World}
      (making : s.point i = .making)
      (came : g.decider.resolve g.subject (wanted i) s.standing.world = (.ok c, world))
      (held : (s.standing.contexts.add (wanted i) c).find? (wanted i) = some answer) :
      Step g wanted s (s.settle i (.ok c) (.ok answer) ⟨world, s.standing.contexts.add (wanted i) c⟩)
  | failed {s : Turns ι World Failure Project Context} {i : ι} {f : Failure} {world : World}
      (making : s.point i = .making)
      (came : g.decider.resolve g.subject (wanted i) s.standing.world = (.error f, world)) :
      Step g wanted s (s.settle i (.error f) (.error (.failed f)) { s.standing with world })
  | elsewhere {s : Turns ι World Failure Project Context} {world : World} :
      Step g wanted s { s with standing := { s.standing with world } }

theorem find?_add_self [ReflBEq Project] {known : Contexts Project Context} {project : Option Project}
    (new : known.find? project = none) (c : Context) : (known.add project c).find? project = some c := by
  rw [Contexts.find?_add, new, Option.none_or, if_pos (beq_self_eq_true project)]

section Stepping

variable {g : Guarded World Failure Subject Project Context Resource} {wanted : ι → Option Project}
  {s t : Turns ι World Failure Project Context} {i : ι}

/-- A caller that is not done gets to a point at which it has no context made. -/
theorem Orderly.move (orderly : s.Orderly wanted) {p : Point Failure Context} {queue : List ι}
    (before : s.point i = .arriving ∨ s.point i = .waiting) (after : p ≠ .making)
    (known : ∀ c, p = .done (.ok c) → s.standing.contexts.find? (wanted i) = some c)
    (queued : ∀ j, j ∈ queue ↔ Function.update s.point i p j = .waiting) (once : queue.Nodup) :
    (s.move i p queue).Orderly wanted := by
  have making : ∀ j, Function.update s.point i p j = .making ↔ s.point j = .making := by
    intro j
    by_cases same : j = i
    · subst same
      rcases before with point | point <;> simp [point, after]
    · rw [Function.update_of_ne same]
  refine ⟨?_, fun j k first second => ?_, fun j first => ?_, queued, once, orderly.made, orderly.distinct,
    fun j c answered => ?_, fun j o member => ?_⟩
  · simpa only [Turns.move, making] using orderly.held
  · exact orderly.alone j k ((making j).mp first) ((making k).mp second)
  · exact orderly.new j ((making j).mp first)
  · by_cases same : j = i
    · subst same
      exact known c (by simpa [Turns.move] using answered)
    · exact orderly.answered j c (by simpa [Turns.move, same] using answered)
  · have point := orderly.told j o member
    have other : j ≠ i := by
      rintro rfl
      rcases before with before | before <;> simp [before] at point
    simpa [Turns.move, other] using point

/-- A caller whose turn it is has its context made. -/
theorem Orderly.enter (orderly : s.Orderly wanted) {queue : List ι}
    (before : s.point i = .arriving ∨ s.point i = .waiting) (free : s.locked = false)
    (new : s.standing.contexts.find? (wanted i) = none)
    (queued : ∀ j, j ∈ queue ↔ Function.update s.point i .making j = .waiting) (once : queue.Nodup) :
    (s.grant i queue).Orderly wanted := by
  have nobody : ∀ j, s.point j ≠ .making := by
    intro j making
    rw [orderly.held.mpr ⟨j, making⟩] at free
    cases free
  have only : ∀ j, Function.update s.point i .making j = .making → j = i := by
    intro j making
    by_contra other
    rw [Function.update_of_ne other] at making
    exact nobody j making
  refine ⟨?_, fun j k first second => (only j first).trans (only k second).symm, fun j making => ?_, queued, once,
    orderly.made, orderly.distinct, fun j c answered => ?_, fun j o member => ?_⟩
  · exact iff_of_true rfl ⟨i, Function.update_self ..⟩
  · obtain rfl := only j making
    exact new
  · have other : j ≠ i := by
      rintro rfl
      simp [grant, Turns.move] at answered
    exact orderly.answered j c (by simpa [grant, Turns.move, other] using answered)
  · have point := orderly.told j o member
    have other : j ≠ i := by
      rintro rfl
      rcases before with before | before <;> simp [before] at point
    simpa [grant, Turns.move, other] using point

/-- Others wait as before. -/
theorem Orderly.queued_update (orderly : s.Orderly wanted) {p : Point Failure Context} {queue : List ι}
    (others : ∀ j, j ≠ i → (j ∈ queue ↔ j ∈ s.queue)) (own : i ∈ queue ↔ p = .waiting) :
    ∀ j, j ∈ queue ↔ Function.update s.point i p j = .waiting := by
  intro j
  by_cases same : j = i
  · subst same
    rw [own, Function.update_self]
  · rw [others j same, orderly.queued, Function.update_of_ne same]

/-- A call of the decider comes to an end. Then nobody has a context made. -/
theorem Orderly.settle (orderly : s.Orderly wanted) {came : Except Failure Context}
    {answer : Except (Refusal Failure) Context} {standing : Standing World Project Context}
    (making : s.point i = .making) (told : answer = came.mapError .failed)
    (made : standing.contexts.entries =
      s.made wanted ++ (came.toOption.map fun context => (wanted i, context)).toList)
    (distinct : standing.contexts.entries.Pairwise fun a b => ¬(a.1 == b.1) = true)
    (own : ∀ c, answer = .ok c → standing.contexts.find? (wanted i) = some c)
    (others : ∀ project c, s.standing.contexts.find? project = some c → standing.contexts.find? project = some c) :
    (s.settle i came answer standing).Orderly wanted := by
  have nobody : ∀ j, Function.update s.point i (.done answer) j ≠ .making := by
    intro j still
    by_cases same : j = i
    · subst same
      simp at still
    · rw [Function.update_of_ne same] at still
      exact same (orderly.alone j i still making)
  have unqueued : i ∉ s.queue := orderly.not_mem_queue (by simp [making])
  have queued : ∀ j, j ∈ s.queue ↔ Function.update s.point i (.done answer) j = .waiting :=
    orderly.queued_update (fun _ _ => Iff.rfl) (iff_of_false unqueued (by simp))
  refine ⟨by simpa [Turns.settle, Turns.move] using nobody, fun j k first => absurd first (nobody j),
    fun j first => absurd first (nobody j), queued, orderly.once, ?_, distinct, fun j c answered => ?_,
    fun j o member => ?_⟩
  · cases came <;> simp [Turns.settle, Turns.made, made, Except.toOption]
  · by_cases same : j = i
    · subst same
      exact own c (by simpa [Turns.settle, Turns.move] using answered)
    · exact others _ c (orderly.answered j c (by simpa [Turns.settle, Turns.move, same] using answered))
  · rcases List.mem_append.mp member with old | last
    · simpa [Turns.settle, Turns.move, orderly.ne_of_mem_calls making old] using orderly.told j o old
    · obtain ⟨rfl, rfl⟩ := Prod.mk.inj (List.mem_singleton.mp last)
      rw [← told]
      exact Function.update_self ..

theorem Orderly.settle_made (orderly : s.Orderly wanted) {c answer : Context} {world : World}
    (making : s.point i = .making)
    (held : (s.standing.contexts.add (wanted i) c).find? (wanted i) = some answer) :
    (s.settle i (.ok c) (.ok answer) ⟨world, s.standing.contexts.add (wanted i) c⟩).Orderly wanted := by
  have new := orderly.new i making
  obtain rfl : c = answer := by
    rw [Contexts.find?_add, new, Option.none_or] at held
    exact Option.some.inj (Option.ite_none_right_eq_some.mp held).2
  have unlike : ∀ a ∈ s.standing.contexts.entries, ¬(a.1 == wanted i) = true := by
    rw [Contexts.find?, Option.map_eq_none_iff] at new
    exact List.find?_eq_none.mp new
  refine orderly.settle making rfl ?_ ?_ (fun d same => ?_) fun project d known => ?_
  · simp [Contexts.add, orderly.made, Except.toOption]
  · refine List.pairwise_append.mpr ⟨orderly.distinct, List.pairwise_singleton .., fun a inEntries b single => ?_⟩
    obtain rfl := List.mem_singleton.mp single
    exact unlike a inEntries
  · obtain rfl := Except.ok.inj same
    exact held
  · show (s.standing.contexts.add (wanted i) c).find? project = some d
    rw [Contexts.find?_add, known, Option.some_or]

theorem Orderly.settle_failed (orderly : s.Orderly wanted) {f : Failure} {world : World}
    (making : s.point i = .making) :
    (s.settle i (.error f) (.error (.failed f)) { s.standing with world }).Orderly wanted := by
  refine orderly.settle making rfl ?_ orderly.distinct (fun c same => by cases same) fun project c known => known
  simp [orderly.made, Except.toOption]

/-- Callers keep to their order step by step. -/
theorem Step.orderly (step : Step g wanted s t) (orderly : s.Orderly wanted) : t.Orderly wanted := by
  cases step with
  | @refused i arriving unkept =>
    have unqueued : i ∉ s.queue := orderly.not_mem_queue (by simp [arriving])
    exact orderly.move (Or.inl arriving) (by simp) (by simp)
      (orderly.queued_update (fun _ _ => Iff.rfl) (by simp [unqueued])) orderly.once
  | @found i c arriving kept known =>
    have unqueued : i ∉ s.queue := orderly.not_mem_queue (by simp [arriving])
    exact orderly.move (Or.inl arriving) (by simp) (by simpa using known)
      (orderly.queued_update (fun _ _ => Iff.rfl) (by simp [unqueued])) orderly.once
  | @queued i arriving kept new busy =>
    have unqueued : i ∉ s.queue := orderly.not_mem_queue (by simp [arriving])
    exact orderly.move (Or.inl arriving) (by simp) (by simp)
      (orderly.queued_update (fun j other => by simp [other]) (by simp))
      (List.nodup_append.mpr ⟨orderly.once, by simp, by
        rintro j member k single rfl
        exact unqueued (List.mem_singleton.mp single ▸ member)⟩)
  | @entered i arriving kept new free nobody =>
    exact orderly.enter (Or.inl arriving) free new
      (orderly.queued_update (fun j other => by simp [nobody]) (by simp)) .nil
  | @left i waiting =>
    exact orderly.move (Or.inr waiting) (by simp) (by simp)
      (orderly.queued_update (fun j other => List.mem_erase_of_ne other) (by simp [orderly.once.mem_erase_iff]))
      (orderly.once.erase i)
  | @foundInTurn i rest c first free known =>
    obtain ⟨waiting, unqueued, once⟩ := orderly.first first
    exact orderly.move (Or.inr waiting) (by simp) (by simpa using known)
      (orderly.queued_update (fun j other => by simp [first, other]) (by simp [unqueued])) once
  | @turn i rest first free new =>
    obtain ⟨waiting, unqueued, once⟩ := orderly.first first
    exact orderly.enter (Or.inr waiting) free new
      (orderly.queued_update (fun j other => by simp [first, other]) (by simp [unqueued])) once
  | made making came held => exact orderly.settle_made making held
  | failed making came => exact orderly.settle_failed making
  | elsewhere =>
    exact ⟨orderly.held, orderly.alone, orderly.new, orderly.queued, orderly.once, orderly.made, orderly.distinct,
      orderly.answered, orderly.told⟩

theorem Orderly.of_run (orderly : s.Orderly wanted) (run : Relation.ReflTransGen (Step g wanted) s t) :
    t.Orderly wanted := by
  induction run with
  | refl => exact orderly
  | tail _ step ih => exact step.orderly ih

/-- A call that raises leaves the contexts as they were. Either its project cannot be kept, and nothing else has
changed, or its context could not be made, and it is nobody's turn any more. -/
theorem Step.raises (step : Step g wanted s t) (orderly : s.Orderly wanted) {refusal : Refusal Failure}
    (before : s.point i ≠ .done (.error refusal)) (after : t.point i = .done (.error refusal)) :
    t.standing.contexts = s.standing.contexts ∧
      (¬g.Keeps (wanted i) ∧ t.locked = s.locked ∧ t.queue = s.queue ∨
        t.locked = false ∧ t.standing.contexts.find? (wanted i) = none) := by
  cases step with
  | refused arriving unkept =>
    obtain ⟨rfl, _⟩ := eq_of_update before after
    exact ⟨rfl, Or.inl ⟨unkept, rfl, rfl⟩⟩
  | failed making came =>
    obtain ⟨rfl, _⟩ := eq_of_update before after
    exact ⟨rfl, Or.inr ⟨rfl, orderly.new _ making⟩⟩
  | found | foundInTurn | queued | entered | left | turn | made => cases (eq_of_update before after).2
  | elsewhere => exact absurd after before

/-- When it is nobody's turn, the first who waits can have its context made, or whoever arrives if nobody waits. -/
theorem exists_turn (free : s.locked = false) (new : s.standing.contexts.find? (wanted i) = none)
    (next : s.queue.head? = some i ∨ s.queue = [] ∧ s.point i = .arriving ∧ g.Keeps (wanted i)) :
    ∃ t, Step g wanted s t ∧ t.point i = .making := by
  rcases next with first | ⟨nobody, arriving, kept⟩
  · obtain ⟨rest, first⟩ := List.head?_eq_some_iff.mp first
    exact ⟨_, .turn first free new, Function.update_self ..⟩
  · exact ⟨_, .entered arriving kept new free nobody, Function.update_self ..⟩

section Answers

variable [ReflBEq Project] (g wanted)

/-- A caller whose context is being made can always come to its answer. -/
theorem exists_settled (making : s.point i = .making)
    (new : s.standing.contexts.find? (wanted i) = none) :
    ∃ came answer standing, Step g wanted s (s.settle i came answer standing) := by
  cases resolved : g.decider.resolve g.subject (wanted i) s.standing.world with
  | mk came world =>
    cases came with
    | ok c => exact ⟨_, _, _, .made making resolved (find?_add_self new c)⟩
    | error f => exact ⟨_, _, _, .failed making resolved⟩

/-- Whoever arrives when it is nobody's turn and nobody waits comes to what its request comes to on its own. -/
theorem exists_run_of_context (arriving : s.point i = .arriving) (free : s.locked = false) (nobody : s.queue = []) :
    ∃ t, Relation.ReflTransGen (Step g wanted) s t ∧ t.point i = .done (g.context (wanted i) s.standing).1 ∧
      t.standing = (g.context (wanted i) s.standing).2 := by
  by_cases kept : g.Keeps (wanted i)
  · cases known : s.standing.contexts.find? (wanted i) with
    | some c =>
      rw [Guarded.context_found kept known]
      exact ⟨_, .single (.found arriving kept known), Function.update_self .., rfl⟩
    | none =>
      have making : (s.grant i []).point i = .making := Function.update_self ..
      have entered : Step g wanted s (s.grant i []) := .entered arriving kept known free nobody
      cases resolved : g.decider.resolve g.subject (wanted i) s.standing.world with
      | mk came world =>
        cases came with
        | ok c =>
          rw [Guarded.context_made kept known resolved]
          have made := Step.made making resolved (find?_add_self known c)
          exact ⟨_, .tail (.single entered) made, Function.update_self .., rfl⟩
        | error f =>
          rw [Guarded.context_failed kept known resolved]
          exact ⟨_, .tail (.single entered) (.failed making resolved), Function.update_self .., rfl⟩
  · rw [Guarded.context_unkept kept]
    exact ⟨_, .single (.refused arriving kept), Function.update_self .., rfl⟩

/-- The first who waits can come to its answer when it is nobody's turn. -/
theorem exists_served {rest : List ι} (first : s.queue = i :: rest) (free : s.locked = false) :
    ∃ t answer, Relation.ReflTransGen (Step g wanted) s t ∧ t.point = Function.update s.point i (.done answer) ∧
      t.locked = false ∧ t.queue = rest := by
  cases known : s.standing.contexts.find? (wanted i) with
  | some c => exact ⟨_, .ok c, .single (.foundInTurn first free known), rfl, free, rfl⟩
  | none =>
    have turn : Step g wanted s (s.grant i rest) := .turn first free known
    obtain ⟨came, answer, standing, settled⟩ :=
      exists_settled (s := s.grant i rest) (i := i) g wanted (Function.update_self ..) known
    exact ⟨_, answer, .tail (.single turn) settled, by simp [settle, grant, Turns.move], rfl, rfl⟩

/-- All who wait can come to their answers, one after another. -/
theorem exists_all_served (free : s.locked = false) :
    ∃ t, Relation.ReflTransGen (Step g wanted) s t ∧ t.locked = false ∧ t.queue = [] ∧
      (∀ j ∈ s.queue, ∃ answer, t.point j = .done answer) ∧ ∀ j, j ∉ s.queue → t.point j = s.point j := by
  generalize waiting : s.queue = queue
  induction queue generalizing s with
  | nil => exact ⟨s, .refl, free, waiting, fun j member => by simp at member, fun _ _ => rfl⟩
  | cons i rest ih =>
    obtain ⟨t, answer, run, point, unlocked, shorter⟩ := exists_served g wanted waiting free
    obtain ⟨u, further, unlocked, empty, served, others⟩ := ih unlocked shorter
    refine ⟨u, run.trans further, unlocked, empty, fun j member => ?_, fun j absent => ?_⟩
    · by_cases later : j ∈ rest
      · exact served j later
      · obtain rfl : j = i := (List.mem_cons.mp member).resolve_right later
        exact ⟨answer, by rw [others j later, point, Function.update_self]⟩
    · obtain ⟨other, later⟩ := not_or.mp (List.mem_cons.not.mp absent)
      rw [others j later, point, Function.update_of_ne other]

/-- Whoever has the turn can leave it, while all others stay where they are. -/
theorem Orderly.exists_free (orderly : s.Orderly wanted) (other : s.point i ≠ .making) :
    ∃ t, Relation.ReflTransGen (Step g wanted) s t ∧ t.locked = false ∧ t.point i = s.point i := by
  cases held : s.locked with
  | false => exact ⟨s, .refl, held, rfl⟩
  | true =>
    obtain ⟨j, making⟩ := orderly.held.mp held
    obtain ⟨came, answer, standing, settled⟩ := exists_settled g wanted making (orderly.new j making)
    have apart : i ≠ j := by
      rintro rfl
      exact other making
    exact ⟨_, .single settled, rfl, Function.update_of_ne apart ..⟩

/-- Nobody gets stuck: every caller that has not gone away can still come to its answer. -/
theorem Orderly.exists_answer (orderly : s.Orderly wanted) (stays : s.point i ≠ .gone) :
    ∃ t answer, Relation.ReflTransGen (Step g wanted) s t ∧ t.point i = .done answer := by
  by_cases making : s.point i = .making
  · obtain ⟨came, answer, standing, settled⟩ := exists_settled g wanted making (orderly.new i making)
    exact ⟨_, answer, .single settled, Function.update_self ..⟩
  · obtain ⟨t, run, free, same⟩ := orderly.exists_free g wanted making
    obtain ⟨u, further, unlocked, nobody, served, others⟩ := exists_all_served g wanted free
    have queued := (orderly.of_run run).queued i
    cases point : s.point i with
    | arriving =>
      have arriving : u.point i = .arriving := by rw [others i (by simp [queued, same, point]), same, point]
      obtain ⟨v, last, answered, _⟩ := exists_run_of_context g wanted arriving unlocked nobody
      exact ⟨v, _, (run.trans further).trans last, answered⟩
    | waiting =>
      obtain ⟨answer, answered⟩ := served i (queued.mpr (same.trans point))
      exact ⟨u, answer, run.trans further, answered⟩
    | making => exact absurd point making
    | done answer => exact ⟨s, answer, .refl, point⟩
    | gone => exact absurd point stays

end Answers

end Stepping

end Turns

theorem Contexts.entries_filter {Project Context : Type} [BEq Project] [PartialEquivBEq Project]
    {entries : List (Option Project × Context)} (distinct : entries.Pairwise fun a b => ¬(a.1 == b.1) = true)
    (project : Option Project) :
    (entries.filter fun entry => entry.1 == project).map Prod.snd = ((Contexts.mk entries).find? project).toList := by
  induction entries with
  | nil => rfl
  | cons first rest ih =>
    obtain ⟨apart, distinct⟩ := List.pairwise_cons.mp distinct
    cases same : first.1 == project with
    | false =>
      rw [List.filter_cons_of_neg (by simp [same]), ih distinct, Contexts.find?, Contexts.find?,
        List.find?_cons_of_neg (by simp [same])]
    | true =>
      have none : (rest.filter fun entry => entry.1 == project) = [] := by
        refine List.filter_eq_nil_iff.mpr fun entry member other => apart entry member ?_
        exact PartialEquivBEq.trans same (PartialEquivBEq.symm other)
      rw [List.filter_cons_of_pos (by simp [same]), none, Contexts.find?, List.find?_cons_of_pos (by simp [same])]
      rfl

open Turns in
/-- However callers take turns, a context is made at most once for each project, and never two at once; the contexts
that are kept are those that have been made; whoever is answered gets the one that has been made for its project; and a
call that raises leaves the contexts as they were and, if its context could not be made, the turn free for the next.
Nobody gets stuck, and whoever is alone comes to what the request for the context comes to. -/
theorem contexts_made_once {ι World Failure Subject Project Context Resource : Type} [DecidableEq ι] [BEq Project]
    [EquivBEq Project] (g : Guarded World Failure Subject Project Context Resource) (wanted : ι → Option Project)
    (world : World) {s : Turns ι World Failure Project Context}
    (run : Relation.ReflTransGen (Step g wanted) (start world) s) :
    s.standing.contexts.entries = s.made wanted ∧
      (∀ project, ((s.made wanted).filter fun call => call.1 == project).length ≤ 1) ∧
      (∀ i j, s.point i = .making → s.point j = .making → i = j) ∧
      (∀ i c, s.point i = .done (.ok c) → ((s.made wanted).filter fun call => call.1 == wanted i).map Prod.snd = [c]) ∧
      (∀ i c, (i, .ok c) ∈ s.calls → s.point i = .done (.ok c)) ∧
      (∀ i refusal t, Step g wanted s t → s.point i ≠ .done (.error refusal) → t.point i = .done (.error refusal) →
        t.standing.contexts = s.standing.contexts ∧
          (¬g.Keeps (wanted i) ∧ t.locked = s.locked ∧ t.queue = s.queue ∨
            t.locked = false ∧ t.standing.contexts.find? (wanted i) = none ∧
              ∀ j, t.standing.contexts.find? (wanted j) = none →
                (t.queue.head? = some j ∨ t.queue = [] ∧ t.point j = .arriving ∧ g.Keeps (wanted j)) →
                  ∃ u, Step g wanted t u ∧ u.point j = .making)) ∧
      (∀ i, s.point i ≠ .gone → ∃ t answer, Relation.ReflTransGen (Step g wanted) s t ∧ t.point i = .done answer) ∧
      ∀ i, s.point i = .arriving → s.locked = false → s.queue = [] →
        ∃ t, Relation.ReflTransGen (Step g wanted) s t ∧ t.point i = .done (g.context (wanted i) s.standing).1 ∧
          t.standing = (g.context (wanted i) s.standing).2 := by
  have orderly : s.Orderly wanted := (start_orderly world).of_run run
  have entries := orderly.made
  have filtered : ∀ project, ((s.made wanted).filter fun call => call.1 == project).map Prod.snd =
      (s.standing.contexts.find? project).toList := by
    intro project
    rw [← entries]
    exact Contexts.entries_filter orderly.distinct project
  refine ⟨entries, fun project => ?_, orderly.alone, fun i c answered => ?_, fun i c member => orderly.told i _ member,
    fun i refusal t step before after => ?_, fun i stays => orderly.exists_answer g wanted stays,
    fun i arriving free nobody => exists_run_of_context g wanted arriving free nobody⟩
  · have length := congrArg List.length (filtered project)
    rw [List.length_map] at length
    rw [length]
    exact Option.length_toList_le
  · rw [filtered, orderly.answered i c answered]
    rfl
  · obtain ⟨contexts, ⟨unkept, locked, queue⟩ | ⟨free, none⟩⟩ := step.raises orderly before after
    · exact ⟨contexts, Or.inl ⟨unkept, locked, queue⟩⟩
    · exact ⟨contexts, Or.inr ⟨free, none, fun j new next => exists_turn free new next⟩⟩

/-- A guard whose decider fails the first time. -/
def exampleGuard : Guarded Nat String String String Nat Unit where
  label := ⟨"JobAccess", "Job", none⟩
  subject := "alice"
  decider :=
    { resolve := fun _ _ => do
        let tried ← get
        set (tried + 1)
        if tried = 0 then throw "resolve failed" else return tried
      checkSystem := fun _ _ => return true
      checkProject := fun _ _ _ _ => return true }
  retrieve := return some ()
  project := fun _ => return some "ops"
  keeps := fun _ => true
  target := fun _ => return ⟨false, .map []⟩

open Turns in
/-- Three callers ask for one project. The first fails, the second has the context made, and the third finds it. -/
theorem third_caller_finds_context : ∃ s : Turns (Fin 3) Nat String String Nat,
    Relation.ReflTransGen (Step exampleGuard fun _ => some "ops") (start 0) s ∧
      s.point 0 = .done (.error (.failed "resolve failed")) ∧ s.point 2 = .done (.ok 1) ∧
      ((s.made fun _ => some "ops").filter fun call => call.1 == some "ops").map Prod.snd = [1] := by
  have kept : exampleGuard.Keeps (some "ops") := fun _ _ => rfl
  have first : Relation.ReflTransGen (Step exampleGuard fun _ => some "ops") (start 0) _ :=
    .single (.entered (i := (0 : Fin 3)) rfl kept rfl rfl rfl)
  have second := first.tail (.queued (i := 1) rfl kept rfl (Or.inl rfl))
  have failed := second.tail (.failed (i := 0) rfl rfl)
  have turn := failed.tail (.turn (i := 1) rfl rfl rfl)
  have third := turn.tail (.queued (i := 2) rfl kept rfl (Or.inl rfl))
  have made := third.tail (.made (i := 1) rfl rfl rfl)
  have found := made.tail (.foundInTurn (i := 2) (c := 1) rfl rfl rfl)
  obtain ⟨_, _, _, answered, _⟩ := contexts_made_once exampleGuard (fun _ => some "ops") 0 found
  exact ⟨_, found, rfl, rfl, answered 2 1 rfl⟩

end AccessPolicy.Access
