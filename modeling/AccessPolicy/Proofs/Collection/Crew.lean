import AccessPolicy.Proofs.Collection.Merging

namespace AccessPolicy.Collection

/-- How far the loading of a source has come: nobody has begun it, it is about to be opened, outcomes of it are left, or
all is done. -/
inductive Stage where
  | waiting
  | opening
  | reading (policies : List Policy) (ordinal index : Nat) (left : List Source.Outcome)
  | finished (policies : List Policy)

/-- The loading of one source. -/
structure Job where
  source : Source
  stage : Stage

/-- The loading of all sources, and the messages that all workers record into. -/
structure Crew where
  jobs : List Job
  log : Diagnostics

namespace Job

/-- Whether nobody has begun a job. -/
def isWaiting (job : Job) : Bool := job.stage matches .waiting

/-- Whether a worker is at a job. -/
def isBusy (job : Job) : Bool := job.stage matches .opening | .reading ..

@[simp] theorem isWaiting_waiting (s : Source) : (Job.mk s .waiting).isWaiting = true := rfl

@[simp] theorem isWaiting_opening (s : Source) : (Job.mk s .opening).isWaiting = false := rfl

@[simp] theorem isWaiting_finished (s : Source) (policies : List Policy) :
    (Job.mk s (.finished policies)).isWaiting = false := rfl

@[simp] theorem isBusy_waiting (s : Source) : (Job.mk s .waiting).isBusy = false := rfl

@[simp] theorem isBusy_opening (s : Source) : (Job.mk s .opening).isBusy = true := rfl

@[simp] theorem isBusy_finished (s : Source) (policies : List Policy) :
    (Job.mk s (.finished policies)).isBusy = false := rfl

/-- The policies that a job has come to so far. -/
def policies (job : Job) : List Policy :=
  match job.stage with
  | .waiting | .opening => []
  | .reading policies .. | .finished policies => policies

/-- What a job comes to if nothing ends it: the policies that it then has, and the messages that are still to be
recorded. -/
def due (pinned : Option (List Attribute)) (job : Job) : Except CollectionFault Progress :=
  match job.stage with
  | .waiting | .opening => Progress.takeSource pinned .nothing job.source
  | .reading policies ordinal index left =>
    Progress.takeFrom ⟨policies, .empty⟩ pinned job.source.identity ordinal index left
  | .finished policies => .ok ⟨policies, .empty⟩

/-- The messages that a job has still to record. -/
def remaining (pinned : Option (List Attribute)) (job : Job) : List Note :=
  match job.due pinned with
  | .ok due => due.diagnostics.notes
  | .error _ => []

/-- A number that every move of a worker makes smaller. -/
def work (job : Job) : Nat :=
  let outcomes := (job.source.outcomes.toOption.getD []).length
  match job.stage with
  | .waiting => outcomes + 3
  | .opening => outcomes + 2
  | .reading _ _ _ left => left.length + 1
  | .finished _ => 0

end Job

/-- One move of a worker at a source: it opens the source or tells that it cannot be opened, it takes in one outcome, or
it is done. Each move records one message at most, so nobody can come in between. -/
inductive Move (pinned : Option (List Attribute)) (s : Source) : Stage → Diagnostics → Stage → Diagnostics → Prop
  | opened {outcomes : List Source.Outcome} {log : Diagnostics} (feeds : s.outcomes = .ok outcomes) :
      Move pinned s .opening log (.reading [] 1 1 outcomes) log
  | unopened {fault : Source.OpenFault} {log : Diagnostics} {gain : Progress} (closed : s.outcomes = .error fault)
      (told : Progress.takeSource pinned ⟨[], log⟩ s = .ok gain) :
      Move pinned s .opening log (.finished gain.policies) gain.diagnostics
  | taken {policies : List Policy} {ordinal index : Nat} {o : Source.Outcome} {left : List Source.Outcome}
      {log : Diagnostics} {next : Progress}
      (one : Progress.take ⟨policies, log⟩ pinned s.identity ordinal index o = .ok (some next)) :
      Move pinned s (.reading policies ordinal index (o :: left)) log
        (.reading next.policies (ordinal + 1) (index + 1) left) next.diagnostics
  | ended {policies : List Policy} {ordinal index : Nat} {o : Source.Outcome} {left : List Source.Outcome}
      {log : Diagnostics} (last : Progress.take ⟨policies, log⟩ pinned s.identity ordinal index o = .ok none) :
      Move pinned s (.reading policies ordinal index (o :: left)) log (.finished policies) log
  | exhausted {policies : List Policy} {ordinal index : Nat} {log : Diagnostics} :
      Move pinned s (.reading policies ordinal index []) log (.finished policies) log

section Moving

variable {pinned : Option (List Attribute)} {s : Source} {stage stage' : Stage} {log log' : Diagnostics}

/-- A move takes what it records from what the job has still to record, and leaves the policies that the job comes to as
they are. -/
theorem Move.due_eq (moved : Move pinned s stage log stage' log') {total : Progress}
    (owed : (Job.mk s stage).due pinned = .ok total) :
    ∃ notes rest, (Job.mk s stage').due pinned = .ok rest ∧ log' = log.extend notes ∧
      rest.policies = total.policies ∧ total.diagnostics.notes = notes ++ rest.diagnostics.notes := by
  cases moved with
  | @opened outcomes log feeds =>
    have same : (Job.mk s (.reading [] 1 1 outcomes)).due pinned = (Job.mk s .opening).due pinned := by
      simp [Job.due, Progress.takeSource, feeds, Progress.nothing]
    exact ⟨[], total, same.trans owed, by simp, rfl, rfl⟩
  | unopened closed told =>
    have taken : Progress.takeSource pinned .nothing s = .ok total := owed
    rw [Progress.takeSource_frame, taken] at told
    obtain rfl := Except.ok.inj told
    exact ⟨total.diagnostics.notes, ⟨total.policies, .empty⟩, rfl, rfl, rfl, by simp [Diagnostics.empty]⟩
  | @taken policies ordinal index o left log next one =>
    have passed : Progress.takeFrom ⟨policies, .empty⟩ pinned s.identity ordinal index (o :: left) = .ok total := owed
    obtain ⟨notes, recorded, behind⟩ := Progress.take_behind one
    rw [Progress.takeFrom_cons, behind] at passed
    obtain ⟨rest, later, policies, all⟩ := Progress.takeFrom_behind passed
    exact ⟨notes, rest, later, recorded, policies, all⟩
  | @ended policies ordinal index o left log last =>
    have passed : Progress.takeFrom ⟨policies, .empty⟩ pinned s.identity ordinal index (o :: left) = .ok total := owed
    rw [Progress.takeFrom_cons, Progress.take_behind_none last] at passed
    obtain rfl := Except.ok.inj passed
    exact ⟨[], _, rfl, by simp, rfl, rfl⟩
  | exhausted =>
    obtain rfl : Progress.mk _ .empty = total := by simpa [Job.due, Progress.takeFrom] using owed
    exact ⟨[], _, rfl, by simp, rfl, rfl⟩

/-- Only jobs that a worker is at move, and after a move the worker is still there or the job is done. -/
theorem Move.isBusy (moved : Move pinned s stage log stage' log') :
    (Job.mk s stage).isBusy = true ∧
      ((Job.mk s stage').isBusy = true ∨ ∃ policies, stage' = .finished policies) := by
  cases moved with
  | opened | taken => exact ⟨rfl, Or.inl rfl⟩
  | unopened | ended | exhausted => exact ⟨rfl, Or.inr ⟨_, rfl⟩⟩

theorem Move.work_lt (moved : Move pinned s stage log stage' log') :
    (Job.mk s stage').work < (Job.mk s stage).work := by
  cases moved with
  | opened feeds => simp [Job.work, feeds, Except.toOption]
  | unopened | taken | ended | exhausted => simp [Job.work]

/-- A worker at a job that nothing ends can always move. -/
theorem exists_move (busy : (Job.mk s stage).isBusy = true) {total : Progress}
    (owed : (Job.mk s stage).due pinned = .ok total) (log : Diagnostics) :
    ∃ stage' log', Move pinned s stage log stage' log' := by
  cases stage with
  | waiting | finished => cases busy
  | opening =>
    cases opened : s.outcomes with
    | ok outcomes => exact ⟨_, _, .opened opened⟩
    | error fault =>
      have taken : Progress.takeSource pinned .nothing s = .ok total := owed
      have told : Progress.takeSource pinned ⟨[], log⟩ s = .ok (Progress.append ⟨[], log⟩ total) := by
        rw [Progress.takeSource_frame, taken]
        rfl
      exact ⟨_, _, .unopened opened told⟩
  | reading policies ordinal index left =>
    cases left with
    | nil => exact ⟨_, _, .exhausted⟩
    | cons o left =>
      have passed : Progress.takeFrom ⟨policies, .empty⟩ pinned s.identity ordinal index (o :: left) = .ok total := owed
      rw [Progress.takeFrom_cons, Progress.take_frame] at passed
      cases gained : Progress.nothing.take pinned s.identity ordinal index o with
      | error fault => simp [gained, Except.map] at passed
      | ok gain =>
        have one := @Progress.take_frame pinned s.identity ⟨policies, log⟩ ordinal index o
        rw [gained] at one
        cases gain with
        | none => exact ⟨_, _, .ended one⟩
        | some gain => exact ⟨_, _, .taken one⟩

end Moving

namespace Crew

/-- At the start nobody has begun any source. -/
def start (sources : List Source) (log : Diagnostics) : Crew := ⟨sources.map fun s => ⟨s, .waiting⟩, log⟩

/-- At the end all jobs are done. -/
def IsFinished (crew : Crew) : Prop := ∀ job ∈ crew.jobs, ∃ policies, job.stage = .finished policies

/-- The collection that a crew comes to. The policies are gathered in the order of the sources. -/
def collection (crew : Crew) : Collection where
  sources := crew.jobs.map Job.source
  policies := crew.jobs.flatMap Job.policies
  rules := .merge ((crew.jobs.flatMap Job.policies).map Policy.rules)
  diagnostics := crew.log

/-- One step of one worker. Whoever is free begins the first source that waits; whoever is at a source moves on. -/
inductive Step (pinned : Option (List Attribute)) (workers : Int) : Crew → Crew → Prop
  | begin {s : Source} {before after : List Job} {log : Diagnostics} (inTurn : ∀ job ∈ before, job.isWaiting = false)
      (free : ((before ++ after).filter Job.isBusy).length < workers) :
      Step pinned workers ⟨before ++ ⟨s, .waiting⟩ :: after, log⟩ ⟨before ++ ⟨s, .opening⟩ :: after, log⟩
  | move {s : Source} {stage stage' : Stage} {before after : List Job} {log log' : Diagnostics}
      (moved : Move pinned s stage log stage' log') :
      Step pinned workers ⟨before ++ ⟨s, stage⟩ :: after, log⟩ ⟨before ++ ⟨s, stage'⟩ :: after, log'⟩

/-- What the jobs that nobody has begun have to record. -/
def waitingTasks (pinned : Option (List Attribute)) (jobs : List Job) : List (List Note) :=
  (jobs.filter Job.isWaiting).map (Job.remaining pinned)

/-- What the jobs that a worker is at have still to record. -/
def runningTasks (pinned : Option (List Attribute)) (jobs : List Job) : List (List Note) :=
  (jobs.filter Job.isBusy).map (Job.remaining pinned)

/-- A crew as a pool, whose tasks are the messages that its jobs have still to record. -/
def pool (pinned : Option (List Attribute)) (crew : Crew) : Pool :=
  ⟨waitingTasks pinned crew.jobs, runningTasks pinned crew.jobs, crew.log⟩

/-- What every crew keeps to: its sources stay, they are begun in their order, and each job comes to the policies that
its source brings. -/
structure Keeps (pinned : Option (List Attribute)) (sources : List Source) (shares : List Progress) (crew : Crew) :
    Prop where
  sources : crew.jobs.map Job.source = sources
  inTurn : crew.jobs.Pairwise fun job later => job.isWaiting = true → later.isWaiting = true
  owed : (crew.jobs.map fun job => (job.due pinned).map Progress.policies) =
    shares.map fun share => .ok share.policies

theorem pairwise_replace {α : Type} {R : α → α → Prop} {before after : List α} {x y : α}
    (pairwise : (before ++ x :: after).Pairwise R) (behind : ∀ b ∈ before, R b x → R b y)
    (ahead : ∀ a ∈ after, R x a → R y a) : (before ++ y :: after).Pairwise R := by
  rw [List.pairwise_append, List.pairwise_cons] at pairwise ⊢
  obtain ⟨first, ⟨here, last⟩, across⟩ := pairwise
  refine ⟨first, ⟨fun a inAfter => ahead a inAfter (here a inAfter), last⟩, fun b inBefore other member => ?_⟩
  rcases List.mem_cons.mp member with rfl | inAfter
  · exact behind b inBefore (across b inBefore x (List.mem_cons_self ..))
  · exact across b inBefore other (List.mem_cons_of_mem x inAfter)

theorem not_isWaiting_of_isBusy {job : Job} (busy : job.isBusy = true) : job.isWaiting = false := by
  obtain ⟨s, stage⟩ := job
  cases stage <;> simp [Job.isBusy, Job.isWaiting] at busy ⊢

section Pooling

variable {pinned : Option (List Attribute)} {before after : List Job} {job : Job} {log : Diagnostics}

theorem pool_of_isWaiting (waits : job.isWaiting = true) :
    (Crew.mk (before ++ job :: after) log).pool pinned =
      ⟨waitingTasks pinned before ++ job.remaining pinned :: waitingTasks pinned after,
        runningTasks pinned before ++ runningTasks pinned after, log⟩ := by
  have idle : job.isBusy = false := Bool.eq_false_iff.mpr fun busy => by simp [not_isWaiting_of_isBusy busy] at waits
  simp [pool, waitingTasks, runningTasks, waits, idle]

theorem pool_of_isBusy (busy : job.isBusy = true) :
    (Crew.mk (before ++ job :: after) log).pool pinned =
      ⟨waitingTasks pinned before ++ waitingTasks pinned after,
        runningTasks pinned before ++ job.remaining pinned :: runningTasks pinned after, log⟩ := by
  simp [pool, waitingTasks, runningTasks, busy, not_isWaiting_of_isBusy busy]

theorem pool_of_finished {s : Source} {policies : List Policy} :
    (Crew.mk (before ++ ⟨s, .finished policies⟩ :: after) log).pool pinned =
      ⟨waitingTasks pinned before ++ waitingTasks pinned after, runningTasks pinned before ++ runningTasks pinned after,
        log⟩ := by
  simp [pool, waitingTasks, runningTasks]

end Pooling

section Stepping

variable {pinned : Option (List Attribute)} {sources : List Source} {shares : List Progress} {workers : Int}
  {crew next : Crew}

theorem Keeps.exists_due (kept : crew.Keeps pinned sources shares) {job : Job} (member : job ∈ crew.jobs) :
    ∃ total, job.due pinned = .ok total := by
  have inShares : (job.due pinned).map Progress.policies ∈ shares.map fun share => .ok share.policies := by
    rw [← kept.owed]
    exact List.mem_map_of_mem member
  obtain ⟨share, _, same⟩ := List.mem_map.mp inShares
  cases owed : job.due pinned with
  | ok total => exact ⟨total, rfl⟩
  | error fault => simp [owed, Except.map] at same

/-- To begin a job is to begin the next task of the pool. -/
theorem Keeps.begin {s : Source} {before after : List Job} {log : Diagnostics}
    (kept : (Crew.mk (before ++ ⟨s, .waiting⟩ :: after) log).Keeps pinned sources shares)
    (inTurn : ∀ job ∈ before, job.isWaiting = false)
    (free : ((before ++ after).filter Job.isBusy).length < workers) :
    (Crew.mk (before ++ ⟨s, .opening⟩ :: after) log).Keeps pinned sources shares ∧
      Relation.ReflTransGen (Pool.Step workers) ((Crew.mk (before ++ ⟨s, .waiting⟩ :: after) log).pool pinned)
        ((Crew.mk (before ++ ⟨s, .opening⟩ :: after) log).pool pinned) := by
  obtain ⟨inSources, inOrder, owed⟩ := kept
  have noneBefore : before.filter Job.isWaiting = [] := by simpa [List.filter_eq_nil_iff] using inTurn
  -- Jobs are begun in their order, so nobody can be at a job behind one that waits.
  have noneBusy : after.filter Job.isBusy = [] := by
    refine List.filter_eq_nil_iff.mpr fun job member busy => ?_
    have waits := (List.pairwise_cons.mp (List.pairwise_append.mp inOrder).2.1).1 job member rfl
    simp [not_isWaiting_of_isBusy busy] at waits
  refine ⟨⟨by simpa using inSources, ?_, by simpa [Job.due] using owed⟩, ?_⟩
  · refine pairwise_replace inOrder (fun b inBefore _ waits => ?_) fun _ _ _ waits => by cases waits
    simp [inTurn b inBefore] at waits
  · have first : waitingTasks pinned before = [] := by rw [waitingTasks, noneBefore, List.map_nil]
    have last : runningTasks pinned after = [] := by rw [runningTasks, noneBusy, List.map_nil]
    rw [pool_of_isWaiting rfl, pool_of_isBusy rfl, first, last, List.append_nil]
    refine .single (Pool.Step.begin ?_)
    simpa [noneBusy, runningTasks] using free

/-- To move on at a job is to record what the move tells, and to leave the task with the last move. -/
theorem Keeps.move {s : Source} {stage stage' : Stage} {before after : List Job} {log log' : Diagnostics}
    (kept : (Crew.mk (before ++ ⟨s, stage⟩ :: after) log).Keeps pinned sources shares)
    (moved : Move pinned s stage log stage' log') :
    (Crew.mk (before ++ ⟨s, stage'⟩ :: after) log').Keeps pinned sources shares ∧
      Relation.ReflTransGen (Pool.Step workers) ((Crew.mk (before ++ ⟨s, stage⟩ :: after) log).pool pinned)
        ((Crew.mk (before ++ ⟨s, stage'⟩ :: after) log').pool pinned) := by
  obtain ⟨busy, stays⟩ := moved.isBusy
  obtain ⟨total, due⟩ := kept.exists_due (List.mem_append_right before (List.mem_cons_self ..))
  obtain ⟨inSources, inOrder, owed⟩ := kept
  obtain ⟨notes, rest, due', rfl, policies, all⟩ := moved.due_eq due
  have tasks : (Job.mk s stage).remaining pinned = notes ++ (Job.mk s stage').remaining pinned := by
    simp [Job.remaining, due, due', all]
  have begun : (Job.mk s stage').isWaiting = false := by
    rcases stays with busy' | ⟨_, rfl⟩
    · exact not_isWaiting_of_isBusy busy'
    · rfl
  refine ⟨⟨by simpa using inSources, ?_, by simpa [due, due', Except.map, policies] using owed⟩, ?_⟩
  · refine pairwise_replace inOrder (fun b _ ordered waits => ?_) fun _ _ _ waits => ?_
    · exact absurd (ordered waits) (by simp [not_isWaiting_of_isBusy busy])
    · simp [begun] at waits
  · have recorded := @Pool.record_many workers (waitingTasks pinned before ++ waitingTasks pinned after)
      (runningTasks pinned before) (runningTasks pinned after) notes ((Job.mk s stage').remaining pinned) log
    rw [pool_of_isBusy busy, tasks]
    rcases stays with busy' | ⟨_, rfl⟩
    · rw [pool_of_isBusy busy']
      exact recorded
    · rw [pool_of_finished]
      exact recorded.tail .leave

/-- A crew keeps to it step by step, and each of its steps is some steps of the pool. -/
theorem Step.keeps (step : Step pinned workers crew next) (kept : crew.Keeps pinned sources shares) :
    next.Keeps pinned sources shares ∧
      Relation.ReflTransGen (Pool.Step workers) (crew.pool pinned) (next.pool pinned) := by
  cases step with
  | begin inTurn free => exact kept.begin inTurn free
  | move moved => exact kept.move moved

theorem Keeps.of_run (kept : crew.Keeps pinned sources shares)
    (run : Relation.ReflTransGen (Step pinned workers) crew next) :
    next.Keeps pinned sources shares ∧
      Relation.ReflTransGen (Pool.Step workers) (crew.pool pinned) (next.pool pinned) := by
  induction run with
  | refl => exact ⟨kept, .refl⟩
  | tail _ step ih =>
    obtain ⟨stillKept, more⟩ := step.keeps ih.1
    exact ⟨stillKept, ih.2.trans more⟩

/-- As long as anything is left, some worker can take a step. -/
theorem Keeps.exists_step (kept : crew.Keeps pinned sources shares) (enough : 1 ≤ workers)
    (unfinished : ¬crew.IsFinished) : ∃ next, Step pinned workers crew next := by
  obtain ⟨jobs, log⟩ := crew
  by_cases busy : ∃ job ∈ jobs, job.isBusy = true
  · obtain ⟨⟨s, stage⟩, member, busy⟩ := busy
    obtain ⟨total, owed⟩ := kept.exists_due member
    obtain ⟨before, after, rfl⟩ := List.append_of_mem member
    obtain ⟨stage', log', moved⟩ := exists_move busy owed log
    exact ⟨_, .move moved⟩
  · have nobody : ∀ job ∈ jobs, job.isBusy = false := by simpa using busy
    cases first : jobs.find? Job.isWaiting with
    | none =>
      refine absurd (fun job member => ?_) unfinished
      have begun := List.find?_eq_none.mp first job member
      have idle := nobody job member
      obtain ⟨s, stage⟩ := job
      cases stage with
      | finished policies => exact ⟨policies, rfl⟩
      | waiting => simp at begun
      | opening => simp at idle
      | reading => cases idle
    | some job =>
      obtain ⟨waits, before, after, rfl, begun⟩ := List.find?_eq_some_iff_append.mp first
      obtain ⟨s, stage⟩ := job
      obtain rfl : stage = .waiting := by cases stage <;> first | rfl | cases waits
      have free : ((before ++ after).filter Job.isBusy).length < workers := by
        have none : (before ++ after).filter Job.isBusy = [] := by
          refine List.filter_eq_nil_iff.mpr fun job member => ?_
          rw [nobody job (by grind)]
          decide
        rw [none]
        exact enough
      exact ⟨_, .begin (by simpa using begun) free⟩

/-- What is left to be done of some jobs. -/
def totalWork : List Job → Nat
  | [] => 0
  | job :: rest => job.work + totalWork rest

theorem totalWork_lt {before after : List Job} {job job' : Job} (less : job'.work < job.work) :
    totalWork (before ++ job' :: after) < totalWork (before ++ job :: after) := by
  induction before with
  | nil => simpa [totalWork] using less
  | cons first before ih => simpa [totalWork] using ih

theorem Step.work_lt (step : Step pinned workers crew next) : totalWork next.jobs < totalWork crew.jobs := by
  cases step with
  | begin => exact totalWork_lt (by simp [Job.work])
  | move moved => exact totalWork_lt moved.work_lt

/-- Workers never get stuck and never go on for ever, so in the end all is done. -/
theorem Keeps.exists_end (kept : crew.Keeps pinned sources shares) (enough : 1 ≤ workers) :
    ∃ final, Relation.ReflTransGen (Step pinned workers) crew final ∧ final.IsFinished := by
  induction left : totalWork crew.jobs using Nat.strongRecOn generalizing crew with
  | ind n ih =>
    by_cases finished : crew.IsFinished
    · exact ⟨crew, .refl, finished⟩
    · obtain ⟨next, step⟩ := kept.exists_step enough finished
      have less := step.work_lt
      obtain ⟨final, run, finished⟩ := ih (totalWork next.jobs) (by omega) (step.keeps kept).1 rfl
      exact ⟨final, .head step run, finished⟩

end Stepping

end Crew

end AccessPolicy.Collection
