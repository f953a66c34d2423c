import AccessPolicy.Proofs.Diagnostics
import Mathlib.Logic.Relation

namespace AccessPolicy.Collection

/-- Tasks and what they have recorded. A task is the messages that it has still to record; nobody has begun those
that wait, and the first of them is begun next. -/
structure Pool where
  waiting : List (List Note)
  running : List (List Note)
  log : Diagnostics

namespace Pool

/-- At the start all tasks wait. -/
def start (tasks : List (List Note)) (log : Diagnostics) : Pool := ⟨tasks, [], log⟩

/-- At the end no task is left. -/
def done (log : Diagnostics) : Pool := ⟨[], [], log⟩

/-- The tasks that are not finished. -/
def unfinished (p : Pool) : List (List Note) := p.running ++ p.waiting

/-- One step of one worker: it begins the next task if a worker is free, it records the next message of its task, or
it leaves a task that has nothing more to record. -/
inductive Step (workers : Int) : Pool → Pool → Prop
  | begin {task : List Note} {waiting running : List (List Note)} {log : Diagnostics}
      (free : running.length < workers) :
      Step workers ⟨task :: waiting, running, log⟩ ⟨waiting, running ++ [task], log⟩
  | record {note : Note} {task : List Note} {waiting before after : List (List Note)} {log : Diagnostics} :
      Step workers ⟨waiting, before ++ (note :: task) :: after, log⟩
        ⟨waiting, before ++ task :: after, log.extend [note]⟩
  | leave {waiting before after : List (List Note)} {log : Diagnostics} :
      Step workers ⟨waiting, before ++ [] :: after, log⟩ ⟨waiting, before ++ after, log⟩

/-- Tasks no two of which record under one identity. -/
def Apart (tasks : List (List Note)) : Prop :=
  tasks.Pairwise fun task other => ∀ note ∈ task, ∀ note' ∈ other, note.identity ≠ note'.identity

/-- The messages under an identity when all tasks that are left have been carried out in turn. -/
def outlook (p : Pool) (identity : String) : List String :=
  (p.log.extend p.unfinished.flatten).messagesFor identity

theorem Apart.tail_of_cons {note : Note} {task : List Note} {before after : List (List Note)}
    (apart : Apart (before ++ (note :: task) :: after)) : Apart (before ++ task :: after) := by
  unfold Apart at apart ⊢
  rw [List.pairwise_append, List.pairwise_cons] at apart ⊢
  obtain ⟨earlier, ⟨here, later⟩, across⟩ := apart
  refine ⟨earlier, ⟨fun other member n inTask => here other member n (List.mem_cons_of_mem note inTask), later⟩, ?_⟩
  intro other inBefore task' member n inOther n' inTask'
  rcases List.mem_cons.mp member with rfl | inAfter
  · exact across other inBefore _ (List.mem_cons_self ..) n inOther n' (List.mem_cons_of_mem note inTask')
  · exact across other inBefore task' (List.mem_cons_of_mem _ inAfter) n inOther n' inTask'

/-- No task before another records under an identity that the other records under. -/
theorem Apart.before_ne {note other : Note} {task : List Note} {before after : List (List Note)}
    (apart : Apart (before ++ (note :: task) :: after)) (member : other ∈ before.flatten) :
    other.identity ≠ note.identity := by
  obtain ⟨earlier, inBefore, inEarlier⟩ := List.mem_flatten.mp member
  exact (List.pairwise_append.mp apart).2.2 earlier inBefore _ (List.mem_cons_self ..) other inEarlier note
    (List.mem_cons_self ..)

/-- A step keeps tasks apart, and changes nothing about how the messages under any identity will come to stand. -/
theorem Step.outlook_eq {workers : Int} {p q : Pool} (step : Step workers p q) (apart : Apart p.unfinished) :
    Apart q.unfinished ∧ ∀ identity, q.outlook identity = p.outlook identity := by
  cases step with
  | begin free =>
    have same : ∀ {task : List Note} {waiting running : List (List Note)} {log : Diagnostics},
        (Pool.mk waiting (running ++ [task]) log).unfinished = (Pool.mk (task :: waiting) running log).unfinished := by
      simp [unfinished]
    refine ⟨by rw [same]; exact apart, fun identity => ?_⟩
    simp only [outlook, same]
  | @record note task waiting before after log =>
    simp only [unfinished, List.append_assoc, List.cons_append] at apart
    refine ⟨?_, fun identity => ?_⟩
    · simpa only [unfinished, List.append_assoc, List.cons_append] using apart.tail_of_cons
    · simpa [outlook, unfinished] using Diagnostics.messagesFor_move identity fun other => apart.before_ne
  | @leave waiting before after log =>
    simp only [unfinished, List.append_assoc, List.cons_append] at apart
    refine ⟨?_, fun identity => by simp [outlook, unfinished]⟩
    simp only [unfinished, List.append_assoc]
    exact apart.sublist ((List.sublist_cons_self ..).append_left before)

theorem run_outlook_eq {workers : Int} {p q : Pool} (run : Relation.ReflTransGen (Step workers) p q)
    (apart : Apart p.unfinished) : Apart q.unfinished ∧ ∀ identity, q.outlook identity = p.outlook identity := by
  induction run with
  | refl => exact ⟨apart, fun _ => rfl⟩
  | tail _ step ih =>
    obtain ⟨stillApart, same⟩ := step.outlook_eq ih.1
    exact ⟨stillApart, fun identity => (same identity).trans (ih.2 identity)⟩

/-- However the workers take turns, in the end each identity has the messages of its task in their order. -/
theorem done_messagesFor {workers : Int} {tasks : List (List Note)} {prior log : Diagnostics}
    (run : Relation.ReflTransGen (Step workers) (start tasks prior) (done log)) (apart : Apart tasks)
    (identity : String) :
    log.messagesFor identity = prior.messagesFor identity ++ Diagnostics.messagesFor ⟨tasks.flatten⟩ identity := by
  have same := (run_outlook_eq run (by simpa [unfinished, start] using apart)).2 identity
  simpa [outlook, unfinished, start, done, Diagnostics.messagesFor_extend] using same

/-- A task may record messages one after another while the others stand still. -/
theorem record_many {workers : Int} {waiting before after : List (List Note)} (notes task : List Note)
    (log : Diagnostics) :
    Relation.ReflTransGen (Step workers) ⟨waiting, before ++ (notes ++ task) :: after, log⟩
      ⟨waiting, before ++ task :: after, log.extend notes⟩ := by
  induction notes generalizing log with
  | nil =>
    rw [Diagnostics.extend_nil]
    exact .refl
  | cons note notes ih =>
    have rest := ih (log.extend [note])
    rw [Diagnostics.extend_extend] at rest
    exact .head (@Step.record workers note (notes ++ task) waiting before after log) rest

/-- Whoever is alone carries out all tasks in turn, so one worker is enough for a run to come to its end. -/
theorem exists_run {workers : Int} (enough : 1 ≤ workers) (tasks : List (List Note)) (log : Diagnostics) :
    Relation.ReflTransGen (Step workers) (start tasks log) (done (log.extend tasks.flatten)) := by
  induction tasks generalizing log with
  | nil =>
    rw [List.flatten_nil, Diagnostics.extend_nil]
    exact .refl
  | cons task tasks ih =>
    have recorded := @record_many workers tasks [] [] task [] log
    rw [List.append_nil] at recorded
    have left := recorded.tail (@Step.leave workers tasks [] [] (log.extend task))
    have rest := left.trans (ih (log.extend task))
    rw [Diagnostics.extend_extend] at rest
    exact .head (Step.begin (by simp; omega)) rest

end Pool

end AccessPolicy.Collection
