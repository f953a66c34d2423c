import AccessPolicy.Proofs.Access.Record

namespace AccessPolicy.Access

section Calls

variable {World Failure Subject Project Context Resource : Type} [BEq Project]

/-- How things can stand with a guard that keeps a record: any calls have been made, contexts have been asked for on
their own, and anything may have happened in the world in between. -/
inductive Served (g : Guarded World Failure Subject Project Context Resource) :
    Standing (World × List (Event Failure Subject Project Context Resource)) Project Context → Prop
  | start (world : World) : Served g ⟨(world, []), .empty⟩
  | call {s : Standing (World × List (Event Failure Subject Project Context Resource)) Project Context}
      (served : Served g s) (ask : Ask) : Served g (ask.run g.recorded s).2
  | context {s : Standing (World × List (Event Failure Subject Project Context Resource)) Project Context}
      (served : Served g s) (project : Option Project) : Served g (g.recorded.context project s).2
  | elsewhere {s : Standing (World × List (Event Failure Subject Project Context Resource)) Project Context}
      (served : Served g s) (world : World) : Served g ⟨(world, s.world.2), s.contexts⟩

end Calls

variable {World Failure Subject Project Context Resource : Type}
  {g : Guarded World Failure Subject Project Context Resource} {authority : Authority} {world world' : World}
  {log more : List (Event Failure Subject Project Context Resource)} {contexts : Contexts Project Context}

/-- Every context that is kept has been made for the subject of the guard and the project that it is kept for. -/
def Grounded (g : Guarded World Failure Subject Project Context Resource) (contexts : Contexts Project Context)
    (log : List (Event Failure Subject Project Context Resource)) : Prop :=
  ∀ entry ∈ contexts.entries, .made g.subject entry.1 (.ok entry.2) ∈ log

theorem Grounded.append (grounded : Grounded g contexts log)
    (more : List (Event Failure Subject Project Context Resource)) : Grounded g contexts (log ++ more) :=
  fun entry member => List.mem_append_left more (grounded entry member)

/-- The events by which a resource is got ready for a check. -/
def preparation (resource : Resource) (project : Option Project) (target : Target) :
    List (Event Failure Subject Project Context Resource) :=
  [.retrieved (.ok (some resource)), .placed resource (.ok project), .described resource (.ok target)]

/-- The events after which a check is given up, for something that the decider has no part in has failed. -/
inductive FailsEarly (f : Failure) : List (Event Failure Subject Project Context Resource) → Prop
  | unretrieved : FailsEarly f [.retrieved (.error f)]
  | unplaced (resource : Resource) : FailsEarly f [.retrieved (.ok (some resource)), .placed resource (.error f)]
  | undescribed (resource : Resource) (project : Option Project) :
      FailsEarly f [.retrieved (.ok (some resource)), .placed resource (.ok project), .described resource (.error f)]

theorem Event.checked_consults {e : Event Failure Subject Project Context Resource} {context : Context}
    {project : Option Project} {target : Target} {allowed : Except Failure Bool}
    (same : e = .checked context authority project target allowed) :
    e.consults = true ∧ e.checks = true ∧ e.answers = allowed.isOk := by
  obtain ⟨isSystem, attributes⟩ := target
  subst same
  cases project <;> cases isSystem <;> exact ⟨rfl, rfl, rfl⟩

theorem preparation_early {resource : Resource} {project : Option Project} {target : Target}
    {e : Event Failure Subject Project Context Resource} (member : e ∈ preparation resource project target) :
    e.consults = false := by
  simp only [preparation, List.mem_cons, List.not_mem_nil, or_false] at member
  rcases member with rfl | rfl | rfl <;> rfl

theorem preparation_ne {resource : Resource} {project : Option Project} {target : Target} :
    (preparation resource project target : List (Event Failure Subject Project Context Resource)) ≠
      [.retrieved (.ok none)] := by
  simp [preparation]

theorem FailsEarly.early {f : Failure} (fails : FailsEarly f log) : ∀ e ∈ log, e.consults = false := by
  intro e member
  cases fails <;> simp only [List.mem_cons, List.not_mem_nil, or_false] at member
  · subst member
    rfl
  · rcases member with rfl | rfl <;> rfl
  · rcases member with rfl | rfl | rfl <;> rfl

section Finding

variable [BEq Project]

/-- How a guard comes by the context for a project: none can be kept, it cannot be made, or it has been made, now or
earlier. -/
inductive Finds (g : Guarded World Failure Subject Project Context Resource)
    (log : List (Event Failure Subject Project Context Resource)) (project : Option Project) :
    List (Event Failure Subject Project Context Resource) → Except (Refusal Failure) Context → Prop
  | unkept (unkept : ¬g.Keeps project) : Finds g log project [] (.error .unkept)
  | unmade (f : Failure) : Finds g log project [.made g.subject project (.error f)] (.error (.failed f))
  | earlier {p : Option Project} {context : Context} (same : (p == project) = true)
      (made : .made g.subject p (.ok context) ∈ log) : Finds g log project [] (.ok context)
  | now (context : Context) : Finds g log project [.made g.subject project (.ok context)] (.ok context)

/-- How a guard comes to the decision about its resource. -/
inductive Judges (g : Guarded World Failure Subject Project Context Resource) (authority : Authority)
    (log : List (Event Failure Subject Project Context Resource)) :
    (early consulted : List (Event Failure Subject Project Context Resource)) →
      Except (Refusal Failure) (Bool × Resource) → Prop
  | missing : Judges g authority log [.retrieved (.ok none)] []
      (.error (.denied (.notFound g.label.resourceType g.label.identity)))
  | failed {f : Failure} {early : List (Event Failure Subject Project Context Resource)} (fails : FailsEarly f early) :
      Judges g authority log early [] (.error (.failed f))
  | lost {resource : Resource} {project : Option Project} {target : Target}
      {asked : List (Event Failure Subject Project Context Resource)} {refusal : Refusal Failure}
      (finds : Finds g (log ++ preparation resource project target) (Guarded.scope project target) asked
        (.error refusal)) : Judges g authority log (preparation resource project target) asked (.error refusal)
  | checked {resource : Resource} {project : Option Project} {target : Target}
      {asked : List (Event Failure Subject Project Context Resource)} {context : Context}
      (finds : Finds g (log ++ preparation resource project target) (Guarded.scope project target) asked (.ok context))
      (allowed : Except Failure Bool) :
      Judges g authority log (preparation resource project target)
        (asked ++ [.checked context authority project target allowed])
        ((allowed.map fun allowed => (allowed, resource)).mapError .failed)

theorem context_finds (world : World) (grounded : Grounded g contexts log) (project : Option Project) :
    ∃ asked came world' contexts', Finds g log project asked came ∧ Grounded g contexts' (log ++ asked) ∧
      g.recorded.context project ⟨(world, log), contexts⟩ = (came, ⟨(world', log ++ asked), contexts'⟩) := by
  by_cases kept : g.Keeps project
  · have kept' : g.recorded.Keeps project := kept
    cases known : contexts.find? project with
    | some context =>
      obtain ⟨entry, first, rfl⟩ := Option.map_eq_some_iff.mp known
      have same := List.find?_some first
      have made := grounded entry (List.mem_of_find?_eq_some first)
      refine ⟨[], .ok entry.2, world, contexts, .earlier same made, grounded.append [], ?_⟩
      rw [List.append_nil]
      exact Guarded.context_found kept' known
    | none =>
      cases came : g.decider.resolve g.subject project world with
      | mk result world' =>
        have recorded := Effect.recorded_eq (.made g.subject project) log came
        cases result with
        | ok context =>
          refine ⟨_, _, _, _, .now context, fun entry member => ?_, Guarded.context_made kept' known recorded⟩
          rcases List.mem_append.mp member with old | last
          · exact grounded.append _ entry old
          · obtain rfl := List.mem_singleton.mp last
            exact List.mem_append_right log (List.mem_singleton_self _)
        | error f =>
          exact ⟨_, _, _, _, .unmade f, grounded.append _, Guarded.context_failed kept' known recorded⟩
  · have unkept : ¬g.recorded.Keeps project := kept
    refine ⟨[], _, world, contexts, .unkept kept, grounded.append [], ?_⟩
    rw [List.append_nil]
    exact Guarded.context_unkept unkept

/-- A resource that has been got ready is checked in a context of its project, if there is one. -/
theorem prepared_judges (world : World) (grounded : Grounded g contexts log) (authority : Authority)
    (resource : Resource) (project : Option Project) (target : Target) :
    ∃ consulted verdict world' contexts',
      Judges g authority log (preparation resource project target) consulted verdict ∧
        Grounded g contexts' (log ++ (preparation resource project target ++ consulted)) ∧
        ((g.recorded.context (Guarded.scope project target) >>= fun context =>
            Guarded.inWorld (g.recorded.check context authority project target)) >>= fun allowed =>
              pure (allowed, resource)) ⟨(world, log ++ preparation resource project target), contexts⟩ =
          (verdict, ⟨(world', log ++ (preparation resource project target ++ consulted)), contexts'⟩) := by
  obtain ⟨asked, came, w, contexts', finds, still, found⟩ :=
    context_finds world (grounded.append (preparation resource project target))
      (Guarded.scope project target)
  rw [List.append_assoc] at still found
  cases came with
  | error refusal =>
    exact ⟨asked, _, w, contexts', .lost finds, still, Request.bind_error (Request.bind_error found _) _⟩
  | ok context =>
    cases checked : g.check context authority project target w with
    | mk allowed w' =>
      have recorded := Effect.recorded_eq (.checked context authority project target)
        (log ++ (preparation resource project target ++ asked)) checked
      rw [← Guarded.check_recorded] at recorded
      have same : log ++ (preparation resource project target ++ asked) ++
          [.checked context authority project target allowed] =
            log ++ (preparation resource project target ++
              (asked ++ [.checked context authority project target allowed])) := by
        simp only [List.append_assoc]
      rw [same] at recorded
      have still := still.append [.checked context authority project target allowed]
      rw [same] at still
      refine ⟨_, _, w', contexts', .checked finds allowed, still, ?_⟩
      cases allowed with
      | error f => exact Request.bind_error ((Request.bind_ok found _).trans (Guarded.inWorld_error recorded)) _
      | ok allowed => exact Request.bind_ok ((Request.bind_ok found _).trans (Guarded.inWorld_ok recorded)) _

/-- One step from how things stand with a guard to how they stand after the decision about its resource. -/
theorem judge_judges (world : World) (grounded : Grounded g contexts log) (authority : Authority) :
    ∃ early consulted verdict world' contexts', Judges g authority log early consulted verdict ∧
      Grounded g contexts' (log ++ (early ++ consulted)) ∧
      g.recorded.judge authority ⟨(world, log), contexts⟩ =
        (verdict, ⟨(world', log ++ (early ++ consulted)), contexts'⟩) := by
  cases retrieved : g.retrieve world with
  | mk found w =>
    have first := Effect.recorded_eq .retrieved log retrieved
    match found with
    | .error f =>
      exact ⟨_, [], _, w, contexts, .failed .unretrieved, grounded.append _, Guarded.judge_unretrieved first⟩
    | .ok none => exact ⟨_, [], _, w, contexts, .missing, grounded.append _, Guarded.judge_missing first⟩
    | .ok (some resource) =>
      rw [Guarded.judge_retrieved (s := ⟨(world, log), contexts⟩) first]
      cases placed : g.project resource w with
      | mk place w =>
        have second := Effect.recorded_eq (.placed resource) (log ++ [.retrieved (.ok (some resource))]) placed
        cases place with
        | error f =>
          refine ⟨_, [], _, w, contexts, .failed (.unplaced (f := f) resource), grounded.append _, ?_⟩
          rw [Request.bind_error (Guarded.decide_unplaced second), List.append_assoc]
          rfl
        | ok project =>
          cases described : g.target resource w with
          | mk result w =>
            have third := Effect.recorded_eq (.described resource)
              (log ++ [.retrieved (.ok (some resource))] ++ [.placed resource (.ok project)]) described
            cases result with
            | error f =>
              refine ⟨_, [], _, w, contexts, .failed (.undescribed (f := f) resource project), grounded.append _, ?_⟩
              rw [Request.bind_error (Guarded.decide_undescribed second third), List.append_assoc, List.append_assoc]
              rfl
            | ok target =>
              have decided := Guarded.decide_described (g := g.recorded) (s := ⟨(_, _), contexts⟩)
                authority second third
              have prepared : log ++ [.retrieved (.ok (some resource))] ++ [.placed resource (.ok project)] ++
                  [.described resource (.ok target)] = log ++ preparation resource project target := by
                simp only [List.append_assoc]
                rfl
              rw [Request.bind_congr decided, prepared]
              obtain ⟨consulted, verdict, w', contexts', rest⟩ :=
                prepared_judges w grounded authority resource project target
              exact ⟨_, consulted, verdict, w', contexts', rest⟩

theorem Served.grounded {s : Standing (World × List (Event Failure Subject Project Context Resource)) Project Context}
    (served : Served g s) : Grounded g s.contexts s.world.2 := by
  induction served with
  | start world => exact fun entry member => by cases member
  | @call s served ask ih =>
    obtain ⟨⟨world, log⟩, contexts⟩ := s
    obtain ⟨early, consulted, verdict, w, contexts', _, grounded, judged⟩ :=
      judge_judges world ih ask.authority
    rw [Ask.run_eq judged]
    exact grounded
  | @context s served project ih =>
    obtain ⟨⟨world, log⟩, contexts⟩ := s
    obtain ⟨asked, came, w, contexts', _, grounded, found⟩ := context_finds world ih project
    rw [found]
    exact grounded
  | elsewhere served world ih => exact ih

/-- To come by a context is not to check. -/
theorem Finds.consults {project : Option Project} {asked : List (Event Failure Subject Project Context Resource)}
    {came : Except (Refusal Failure) Context} (finds : Finds g log project asked came) :
    ∀ e ∈ asked, e.consults = true ∧ e.checks = false := by
  intro e member
  cases finds with
  | unkept | earlier => cases member
  | unmade | now =>
    obtain rfl := List.mem_singleton.mp member
    exact ⟨rfl, rfl⟩

theorem Finds.made [ReflBEq Project] {project : Option Project}
    {asked : List (Event Failure Subject Project Context Resource)} {context : Context}
    (finds : Finds g log project asked (.ok context)) :
    ∃ p, (p == project) = true ∧ .made g.subject p (.ok context) ∈ log ++ asked := by
  cases finds with
  | @earlier p _ same made => exact ⟨p, same, List.mem_append_left _ made⟩
  | now context => exact ⟨project, beq_self_eq_true project, List.mem_append_right _ (List.mem_singleton_self _)⟩

end Finding

/-- What a call has to come to, given the answer of the check: that answer, or the resource if it is yes and a denial if
it is no. -/
def Ask.Heeds (ask : Ask) (label : Label) (resource : Resource) (allowed : Bool)
    (came : Except (Refusal Failure) (Reply Resource)) : Prop :=
  (ask.isForResource = false → came = .ok (.allowed allowed)) ∧
    (ask.isForResource = true →
      (came = .ok (.resource resource) ↔ allowed = true) ∧
        (AreTexts ask.authority.actions →
          ((∃ action, came = .error (.denied (.unauthorized action label.resourceType label.identity))) ↔
            allowed = false)))

theorem Ask.conclude_heeds (ask : Ask) (label : Label) (resource : Resource) (allowed : Bool) :
    ask.Heeds label resource allowed
      (conclude label ask.authority ask.isForResource (.ok (allowed, resource)) :
        Except (Refusal Failure) (Reply Resource)) := by
  refine ⟨fun forAnswer => by rw [forAnswer]; rfl, fun forResource => ?_⟩
  rw [forResource]
  cases allowed with
  | true => exact ⟨iff_of_true rfl rfl, fun _ => iff_of_false (by rintro ⟨action, ⟨⟩⟩) (by simp)⟩
  | false =>
    cases described : ask.authority.description? with
    | none =>
      simp only [conclude, described]
      refine ⟨by simp, fun texts => ?_⟩
      obtain ⟨action, told⟩ := Authority.exists_description texts
      rw [described] at told
      cases told
    | some action =>
      simp only [conclude, described]
      exact ⟨by simp, fun _ => by simp⟩

theorem Ask.conclude_notFound {label : Label} {isForResource : Bool} {type : String} {identifier : Value}
    {verdict : Except (Refusal Failure) (Bool × Resource)}
    (concludes : conclude label authority isForResource verdict = .error (.denied (.notFound type identifier))) :
    verdict = .error (.denied (.notFound type identifier)) := by
  match verdict with
  | .error refusal =>
    obtain rfl := Except.error.inj concludes
    rfl
  | .ok (allowed, resource) =>
    cases isForResource <;> cases allowed
    case true.false => cases described : authority.description? <;> simp [conclude, described] at concludes
    all_goals cases concludes

/-- A call of a guard, whatever calls have come before, is refused for want of the resource exactly if it has retrieved
none, and then the decider is not asked. Else, unless something other than the decider has failed, the decider checks
exactly once, the actions that the call asks for, in a context that has been made for the same subject and project; and
the call heeds the answer. A guard that keeps no record comes to the same. -/
theorem every_call_is_checked [BEq Project] [ReflBEq Project]
    (g : Guarded World Failure Subject Project Context Resource)
    {s : Standing (World × List (Event Failure Subject Project Context Resource)) Project Context}
    (served : Served g s) (ask : Ask) :
    ∃ came early consulted w contexts,
      ask.run g.recorded s = (came, ⟨(w, s.world.2 ++ (early ++ consulted)), contexts⟩) ∧
        ask.run g s.forget = (came, ⟨w, contexts⟩) ∧
        (∀ e ∈ early, e.consults = false) ∧ (∀ e ∈ consulted, e.consults = true) ∧
        ((∃ type identifier, came = .error (.denied (.notFound type identifier))) ↔ early = [.retrieved (.ok none)]) ∧
        (early = [.retrieved (.ok none)] → consulted = []) ∧
        (early = [.retrieved (.ok none)] ∨
          (∃ f, FailsEarly f early ∧ consulted = [] ∧ came = .error (.failed f)) ∨
          ∃ resource project target, early = preparation resource project target ∧
            (g.Keeps (Guarded.scope project target) → (∀ e ∈ consulted, e.answers = true) →
              ∃ asked context allowed,
                consulted = asked ++ [.checked context ask.authority project target (.ok allowed)] ∧
                  (∀ e ∈ asked, e.checks = false) ∧
                  (∃ p, (p == Guarded.scope project target) = true ∧
                    .made g.subject p (.ok context) ∈ s.world.2 ++ (early ++ asked)) ∧
                  ask.Heeds g.label resource allowed came)) := by
  obtain ⟨⟨world, log⟩, contexts⟩ := s
  obtain ⟨early, consulted, verdict, w, contexts', judges, _, judged⟩ :=
    judge_judges world served.grounded ask.authority
  have plain := g.judge_mirrors ask.authority ⟨(world, log), contexts⟩
  rw [judged] at plain
  refine ⟨_, early, consulted, w, contexts', Ask.run_eq judged, Ask.run_eq plain, ?_⟩
  have notFound : ∀ type identifier, Ask.conclude g.label ask.authority ask.isForResource verdict =
      .error (.denied (.notFound type identifier)) → verdict = .error (.denied (.notFound type identifier)) :=
    fun type identifier => Ask.conclude_notFound
  cases judges with
  | missing =>
    refine ⟨fun e member => ?_, fun e member => (by cases member), ⟨fun _ => rfl, fun _ => ⟨_, _, rfl⟩⟩, fun _ => rfl,
      Or.inl rfl⟩
    obtain rfl := List.mem_singleton.mp member
    rfl
  | @failed f early fails =>
    refine ⟨fails.early, fun e member => (by cases member), ?_, fun _ => rfl, Or.inr (Or.inl ⟨f, fails, rfl, rfl⟩)⟩
    constructor
    · rintro ⟨type, identifier, came⟩
      cases notFound _ _ came
    · rintro rfl
      cases fails
  | @lost resource project target asked refusal finds =>
    refine ⟨fun e => preparation_early, fun e member => (finds.consults e member).1, ?_,
      fun none => absurd none preparation_ne, Or.inr (Or.inr ⟨resource, project, target, rfl, fun keeps answers => ?_⟩)⟩
    · refine iff_of_false ?_ preparation_ne
      rintro ⟨type, identifier, came⟩
      cases notFound _ _ came
      cases finds
    · cases finds with
      | unkept unkept => exact absurd keeps unkept
      | unmade f => cases answers _ (List.mem_singleton_self _)
  | @checked resource project target asked context finds allowed =>
    refine ⟨fun e => preparation_early, fun e member => ?_, ?_, fun none => absurd none preparation_ne,
      Or.inr (Or.inr ⟨resource, project, target, rfl, fun _ answers => ?_⟩)⟩
    · rcases List.mem_append.mp member with before | last
      · exact (finds.consults e before).1
      · exact (Event.checked_consults (List.mem_singleton.mp last)).1
    · refine iff_of_false ?_ preparation_ne
      rintro ⟨type, identifier, came⟩
      cases allowed <;> cases notFound _ _ came
    · have answered := answers _ (List.mem_append_right _ (List.mem_singleton_self _))
      rw [(Event.checked_consults rfl).2.2] at answered
      cases allowed with
      | error f => cases answered
      | ok allowed =>
        refine ⟨asked, context, allowed, rfl, fun e member => (finds.consults e member).2, ?_,
          ask.conclude_heeds g.label resource allowed⟩
        rw [← List.append_assoc]
        exact finds.made

/-- A guard of a job that moves from project to project. -/
def exampleMoving : Guarded (Option String) String String String String String where
  label := ⟨"JobAccess", "Job", some (.text "deploy")⟩
  subject := "alice"
  decider :=
    { resolve := fun subject project => return subject ++ "@" ++ project.getD "system"
      checkSystem := fun _ _ => return false
      checkProject := fun context _ _ project => return context == "alice@" ++ project }
  retrieve := return some "deploy"
  project := fun _ => get
  keeps := fun _ => true
  target := fun _ => return ⟨false, .map []⟩

/-- A job that has moved is not checked in the context of the project in which it was before. -/
theorem moved_job_is_checked :
    ∃ s, Served exampleMoving s ∧ s.contexts.find? (some "ops") = some "alice@ops" ∧
      ∃ early consulted w contexts,
        (Ask.level .read).run exampleMoving.recorded s =
          (.ok (.resource "deploy"), ⟨(w, s.world.2 ++ (early ++ consulted)), contexts⟩) ∧
        early ≠ [.retrieved (.ok none)] ∧ contexts.find? (some "dev") = some "alice@dev" := by
  have served := Served.elsewhere (.call (.start (g := exampleMoving) (some "ops")) (.level .read)) (some "dev")
  refine ⟨_, served, rfl, ?_⟩
  obtain ⟨came, early, consulted, w, contexts, run, _, _, _, notFound, _⟩ :=
    every_call_is_checked exampleMoving served (.level .read)
  obtain rfl : came = .ok (.resource "deploy") := (congrArg Prod.fst run).symm
  have kept : contexts.find? (some "dev") = some "alice@dev" :=
    (congrArg (fun stands => stands.2.contexts.find? (some "dev")) run).symm
  refine ⟨early, consulted, w, contexts, run, fun none => ?_, kept⟩
  obtain ⟨type, identifier, came⟩ := notFound.mpr none
  cases came

end AccessPolicy.Access
