import AccessPolicy.Proofs.Collection.Crew

namespace AccessPolicy.Collection

namespace Crew

section Ending

variable {pinned : Option (List Attribute)} {sources : List Source} {shares : List Progress} {workers : Int}
  {prior : Diagnostics} {crew : Crew}

/-- If nothing ends the loading of a source, a crew that has not begun has all messages of all sources to record. -/
theorem start_pool
    (each : List.Forall₂ (fun s share => Progress.takeSource pinned .nothing s = .ok share) sources shares)
    (prior : Diagnostics) :
    (start sources prior).pool pinned = Pool.start (shares.map fun share => share.diagnostics.notes) prior := by
  have waiting : waitingTasks pinned (start sources prior).jobs = shares.map fun share => share.diagnostics.notes := by
    induction each with
    | nil => rfl
    | @cons s share rest others first _ ih =>
      have tasks : (Job.mk s .waiting).remaining pinned = share.diagnostics.notes := by
        simp [Job.remaining, Job.due, first]
      simpa [waitingTasks, start, List.filter_cons, tasks] using ih
  have running : runningTasks pinned (start sources prior).jobs = [] := by
    simp [runningTasks, start, List.filter_eq_nil_iff]
  rw [pool, waiting, running]
  rfl

theorem start_keeps
    (each : List.Forall₂ (fun s share => Progress.takeSource pinned .nothing s = .ok share) sources shares)
    (prior : Diagnostics) : (start sources prior).Keeps pinned sources shares := by
  induction each with
  | nil => exact ⟨rfl, .nil, rfl⟩
  | @cons s share rest others first _ ih =>
    obtain ⟨inSources, inOrder, owed⟩ := ih
    have due : (Job.mk s .waiting).due pinned = .ok share := first
    refine ⟨congrArg (s :: ·) inSources, List.pairwise_cons.mpr ⟨fun job member _ => ?_, inOrder⟩, ?_⟩
    · obtain ⟨t, _, rfl⟩ := List.mem_map.mp member
      rfl
    · have tail := congrArg (Except.ok share.policies :: ·) owed
      simpa [start, due, Except.map] using tail

/-- When all is done, each job has the policies that its source brings. -/
theorem Keeps.policies_eq (kept : crew.Keeps pinned sources shares) (finished : crew.IsFinished) :
    crew.jobs.flatMap Job.policies = shares.flatMap Progress.policies := by
  have same : crew.jobs.map (fun job => (job.due pinned).map Progress.policies) =
      crew.jobs.map fun job => .ok job.policies := by
    refine List.map_congr_left fun job member => ?_
    obtain ⟨s, stage⟩ := job
    obtain ⟨policies, rfl⟩ : ∃ policies, stage = .finished policies := finished _ member
    rfl
  have owed : (crew.jobs.map Job.policies).map (Except.ok (ε := CollectionFault)) =
      (shares.map Progress.policies).map .ok := by
    simpa [Function.comp_def] using same.symm.trans kept.owed
  have each := List.map_injective_iff.mpr (fun _ _ => Except.ok.inj) owed
  rw [List.flatMap_def, each, List.flatMap_def]

/-- When all is done, so is the pool. -/
theorem IsFinished.pool_eq (finished : crew.IsFinished) : crew.pool pinned = Pool.done crew.log := by
  have none : ∀ p : Job → Bool, (∀ s policies, p ⟨s, .finished policies⟩ = false) → crew.jobs.filter p = [] := by
    intro p fails
    refine List.filter_eq_nil_iff.mpr fun job member => ?_
    obtain ⟨s, stage⟩ := job
    obtain ⟨policies, rfl⟩ : ∃ policies, stage = .finished policies := finished _ member
    simp [fails]
  rw [pool, waitingTasks, runningTasks, none Job.isWaiting fun _ _ => rfl, none Job.isBusy fun _ _ => rfl]
  rfl

end Ending

end Crew

/-- The ways in which some workers make a collection. One worker takes the sources in turn; several share them, and take
their steps in any order. -/
inductive LoadedBy (workers : Int) (sources : List Source) (pinned : Option (List Attribute)) (prior : Diagnostics) :
    Collection → Prop
  | inTurn {c : Collection} (alone : workers ≤ 1 ∨ sources.length ≤ 1) (made : ofSources sources pinned prior = .ok c) :
      LoadedBy workers sources pinned prior c
  | together {crew : Crew} (several : 1 < workers) (many : 1 < sources.length)
      (run : Relation.ReflTransGen (Crew.Step pinned workers) (Crew.start sources prior) crew)
      (finished : crew.IsFinished) : LoadedBy workers sources pinned prior crew.collection

/-- Collections with the same policies, rules and messages. The messages of each identity stand in one order; the
identities need not. -/
structure Alike (c d : Collection) : Prop where
  policies : c.policies = d.policies
  rules : c.rules = d.rules
  diagnostics : c.diagnostics.groups.Perm d.diagnostics.groups

/-- A collection to which each of several others has brought all that it has. -/
structure MadeOf (prior : Diagnostics) (owns : List Collection) (c : Collection) : Prop where
  policies : c.policies = owns.flatMap Collection.policies
  rules : c.rules.rules = owns.flatMap fun own => own.rules.rules
  messages : ∀ identity, c.diagnostics.messagesFor identity =
    prior.messagesFor identity ++ owns.flatMap fun own => own.diagnostics.messagesFor identity

section Agreement

variable {workers : Int} {sources : List Source} {pinned : Option (List Attribute)} {prior : Diagnostics}
  {shares : List Progress} {owns : List Collection} {c : Collection}

/-- What the workers do to sources that nothing ends is a run of a pool of their messages. -/
theorem LoadedBy.loaded (made : LoadedBy workers sources pinned prior c)
    (brought : sources.mapM (Progress.takeSource pinned .nothing) = .ok shares) :
    Loaded sources pinned prior workers c := by
  cases made with
  | inTurn alone made => exact .inTurn alone made
  | @together crew several many run finished =>
    have each := mapM_eq_ok_iff.mp brought
    obtain ⟨kept, recorded⟩ := (Crew.start_keeps each prior).of_run run
    rw [Crew.start_pool each, finished.pool_eq] at recorded
    rw [Crew.collection, kept.sources, kept.policies_eq finished]
    exact .together several many brought recorded

/-- A source in a collection of its own. -/
theorem ofSources_singleton {s : Source} {own : Collection} (made : ofSources [s] pinned .empty = .ok own) :
    Progress.takeSource pinned .nothing s = .ok ⟨own.policies, own.diagnostics⟩ := by
  rw [ofSources_eq] at made
  cases brought : Progress.takeSource pinned .nothing s with
  | error fault => simp [brought, Except.map, bind, Except.bind] at made
  | ok share =>
    obtain rfl := by simpa [brought, Except.map, bind, Except.bind, pure, Except.pure] using made
    simp [Diagnostics.extend, Diagnostics.empty]

theorem mapM_of_alone (alone : List.Forall₂ (fun s own => ofSources [s] pinned .empty = .ok own) sources owns) :
    sources.mapM (Progress.takeSource pinned .nothing) =
      .ok (owns.map fun own => ⟨own.policies, own.diagnostics⟩) := by
  refine mapM_eq_ok_iff.mpr (List.forall₂_map_right_iff.mpr (alone.imp fun s own => ofSources_singleton))

theorem rules_of_alone (alone : List.Forall₂ (fun s own => ofSources [s] pinned .empty = .ok own) sources owns) :
    (owns.flatMap fun own => own.policies.flatMap fun policy => policy.rules.rules) =
      owns.flatMap fun own => own.rules.rules := by
  induction alone with
  | nil => rfl
  | cons made _ ih =>
    have loaded : Loaded _ pinned .empty 1 _ := .inTurn (Or.inl (Int.le_refl 1)) made
    rw [List.flatMap_cons, List.flatMap_cons, ih, loaded.merged_rules (List.nodup_singleton _)]

/-- However a collection is made, each source brings what it brings in a collection of its own. -/
theorem Loaded.madeOf (loaded : Loaded sources pinned prior workers c)
    (distinct : (sources.map Source.identity).Nodup) (readable : ∀ s ∈ sources, ∃ outcomes, s.outcomes = .ok outcomes)
    (alone : List.Forall₂ (fun s own => ofSources [s] pinned .empty = .ok own) sources owns) : c.MadeOf prior owns := by
  obtain ⟨shares, brought, policies, _, messages⟩ := loaded.brought
  obtain ⟨own, brings⟩ := shares_eq readable brought
  have apart := shares_apart distinct fun p member => (brings p member).2
  rw [← own] at apart
  obtain rfl := Except.ok.inj (brought.symm.trans (mapM_of_alone alone))
  rw [List.flatMap_map] at policies
  refine ⟨policies, ?_, fun identity => ?_⟩
  · rw [loaded.merged_rules distinct, policies, List.flatMap_assoc, rules_of_alone alone]
  · rw [messages apart identity, List.flatMap_map, Diagnostics.messagesFor_flatMap]

theorem MadeOf.alike {d : Collection} (first : c.MadeOf prior owns) (second : d.MadeOf prior owns) : c.Alike d where
  policies := first.policies.trans second.policies.symm
  rules := RuleSet.eq_of_rules (first.rules.trans second.rules.symm)
  diagnostics := Diagnostics.groups_perm fun identity => (first.messages identity).trans (second.messages identity).symm

/-- Sources with different identities, none of which ends the making of its own collection, come to one collection,
whoever loads them and in whatever order. No order keeps the workers from coming to the end. -/
theorem every_schedule_agrees (enough : 1 ≤ workers) (distinct : (sources.map Source.identity).Nodup)
    (readable : ∀ s ∈ sources, ∃ outcomes, s.outcomes = .ok outcomes)
    (alone : List.Forall₂ (fun s own => ofSources [s] pinned .empty = .ok own) sources owns) :
    ∃ serial, ofSources sources pinned prior = .ok serial ∧
      (∃ c, LoadedBy workers sources pinned prior c) ∧
      (∀ crew, Relation.ReflTransGen (Crew.Step pinned workers) (Crew.start sources prior) crew →
        ∃ final, Relation.ReflTransGen (Crew.Step pinned workers) crew final ∧ final.IsFinished) ∧
      ∀ c, LoadedBy workers sources pinned prior c → c.Alike serial ∧ c.MadeOf prior owns := by
  have brought := mapM_of_alone alone
  have begun := Crew.start_keeps (mapM_eq_ok_iff.mp brought) prior
  have finishes : ∀ crew, Relation.ReflTransGen (Crew.Step pinned workers) (Crew.start sources prior) crew →
      ∃ final, Relation.ReflTransGen (Crew.Step pinned workers) crew final ∧ final.IsFinished :=
    fun crew run => (begun.of_run run).1.exists_end enough
  obtain ⟨serial, made⟩ : ∃ serial, ofSources sources pinned prior = .ok serial := by
    rw [ofSources_eq, brought]
    exact ⟨_, rfl⟩
  have inTurn : Loaded sources pinned prior 1 serial := .inTurn (Or.inl (Int.le_refl 1)) made
  have madeOf := inTurn.madeOf distinct readable alone
  refine ⟨serial, made, ?_, finishes, fun c loaded => ?_⟩
  · by_cases few : workers ≤ 1 ∨ sources.length ≤ 1
    · exact ⟨serial, .inTurn few made⟩
    · obtain ⟨several, many⟩ : 1 < workers ∧ 1 < sources.length := by omega
      obtain ⟨final, run, finished⟩ := finishes _ .refl
      exact ⟨final.collection, .together several many run finished⟩
  · have own := (loaded.loaded brought).madeOf distinct readable alone
    exact ⟨own.alike madeOf, own⟩

end Agreement

theorem two_texts_agree :
    ∃ owns serial, owns.map (fun own => own.policies.length) = [1, 0] ∧
      List.Forall₂ (fun s own => ofSources [s] none .empty = .ok own) twoTexts owns ∧
      ofSources twoTexts none .empty = .ok serial ∧ (∃ c, LoadedBy 2 twoTexts none .empty c) ∧
      (∀ crew, Relation.ReflTransGen (Crew.Step none 2) (Crew.start twoTexts .empty) crew →
        ∃ final, Relation.ReflTransGen (Crew.Step none 2) crew final ∧ final.IsFinished) ∧
      ∀ c, LoadedBy 2 twoTexts none .empty c → c.Alike serial ∧ c.MadeOf .empty owns := by
  have distinct : (twoTexts.map Source.identity).Nodup := by decide
  have readable : ∀ s ∈ twoTexts, ∃ outcomes, s.outcomes = .ok outcomes := by
    simp [twoTexts, Source.outcomes, Source.feed, Source.ofText, Except.map]
  have passes : ((twoTexts.mapM fun s => ofSources [s] none .empty).map fun owns =>
      owns.map fun own => own.policies.length).toOption = some [1, 0] := by decide +kernel
  cases tried : twoTexts.mapM fun s => ofSources [s] none .empty with
  | error fault => simp [tried, Except.map, Except.toOption] at passes
  | ok owns =>
    have alone := mapM_eq_ok_iff.mp tried
    obtain ⟨serial, rest⟩ := @every_schedule_agrees 2 twoTexts none .empty owns (by decide) distinct readable alone
    exact ⟨owns, serial, by simpa [tried, Except.map, Except.toOption] using passes, alone, rest⟩

end AccessPolicy.Collection
