import AccessPolicy.Proofs.Collection.Accounts
import AccessPolicy.Proofs.Policy.Soundness
import AccessPolicy.Proofs.Rule.Identity

namespace AccessPolicy

namespace Collection

variable {sources : List Source} {pinned : Option (List Attribute)} {prior : Diagnostics} {c : Collection}

/-- A source that cannot be opened brings no policies. -/
theorem policies_of_unopened {s : Source} {fault : Source.OpenFault} {gain : Progress}
    (opened : s.outcomes = .error fault) (brought : Progress.takeSource pinned .nothing s = .ok gain) :
    gain.policies = [] := by
  cases fault <;> simp [Progress.takeSource, opened, Progress.nothing] at brought <;> simp [← brought]

/-- What a source brings are policies of its own places. -/
theorem place_of_takeSource {s : Source} {gain : Progress} {policy : Policy}
    (brought : Progress.takeSource pinned .nothing s = .ok gain) (member : policy ∈ gain.policies) :
    ∃ p ∈ places s, p.Compiles pinned policy := by
  cases opened : s.outcomes with
  | error fault => simp [policies_of_unopened opened brought] at member
  | ok outcomes =>
    obtain ⟨rfl, each⟩ := takeSource_eq_share opened brought
    simp only [share, Progress.total, List.flatMap_map, List.mem_flatMap] at member
    obtain ⟨p, inPlaces, inGain⟩ := member
    refine ⟨p, inPlaces, ?_⟩
    have brings := (each p inPlaces).2
    generalize p.gain pinned = gain at brings inGain
    cases brings with
    | policy compiles =>
      obtain rfl := List.mem_singleton.mp inGain
      exact compiles
    | message | null => cases inGain

/-- However a collection is made, its policies are what its sources bring, and its rules are those of its policies. -/
theorem Loaded.shares {workers : Int} (loaded : Loaded sources pinned prior workers c) :
    (∃ shares, sources.mapM (Progress.takeSource pinned .nothing) = .ok shares ∧
      c.policies = shares.flatMap Progress.policies) ∧ c.rules = .merge (c.policies.map Policy.rules) := by
  obtain ⟨shares, brought, policies, rules, _⟩ := loaded.brought
  exact ⟨⟨shares, brought, policies⟩, rules⟩

/-- Every policy of a collection is that of a document at a place of a source. -/
theorem Loaded.place_of_policy {workers : Int} {policy : Policy} (loaded : Loaded sources pinned prior workers c)
    (member : policy ∈ c.policies) : ∃ p ∈ sources.flatMap places, p.Compiles pinned policy := by
  obtain ⟨⟨shares, brought, policies⟩, _⟩ := loaded.shares
  rw [policies, List.mem_flatMap] at member
  obtain ⟨gain, inShares, inGain⟩ := member
  obtain ⟨s, inSources, taken⟩ := exists_left_of_mem (mapM_eq_ok_iff.mp brought) inShares
  obtain ⟨p, inPlaces, compiles⟩ := place_of_takeSource taken inGain
  exact ⟨p, List.mem_flatMap.mpr ⟨s, inSources, inPlaces⟩, compiles⟩

/-- Every rule of a collection comes from a document at a place of a source, and is a sound rule of that document. -/
theorem Loaded.rule_sound {workers : Int} {r : Rule} (loaded : Loaded sources pinned prior workers c)
    (member : r ∈ c.rules.rules) :
    ∃ p ∈ sources.flatMap places, ∃ policy ∈ c.policies, p.Compiles pinned policy ∧ r ∈ policy.rules.rules ∧
      r.Sound policy.document pinned := by
  rw [loaded.shares.2] at member
  obtain ⟨_, inSets, inRules⟩ := RuleSet.exists_of_mem_merge member
  obtain ⟨policy, inPolicies, rfl⟩ := List.mem_map.mp inSets
  obtain ⟨p, inPlaces, compiles⟩ := loaded.place_of_policy inPolicies
  refine ⟨p, inPlaces, policy, inPolicies, compiles, inRules, ?_⟩
  obtain ⟨d, _, made⟩ := compiles
  rw [made.document]
  exact made.sound_of_mem inRules

/-- A text about all but a group, with a matcher, in a scope that it leaves to the caller. -/
def excluding : Source :=
  .ofText "description: d\nnotBy: \x7bgroup: dev\x7d\nfor: \x7bjob: [\x7bdeny: run, contains: \x7btags: [a]\x7d\x7d]\x7d\n" "s"

theorem excluding_rule_sound :
    ∃ c r, Loaded [excluding] (some [.ofKey "project" "ops"]) .empty 4 c ∧ c.rules.rules = [r] ∧ r.inclusive = false ∧
      ∃ p ∈ [excluding].flatMap places, ∃ policy ∈ c.policies,
        p.Compiles (some [.ofKey "project" "ops"]) policy ∧ r ∈ policy.rules.rules ∧
        r.Sound policy.document (some [.ofKey "project" "ops"]) := by
  have passes : ((ofSources [excluding] (some [.ofKey "project" "ops"]) .empty).map fun c =>
      c.rules.rules.map Rule.inclusive).toOption = some [false] := by decide +kernel
  cases made : ofSources [excluding] (some [.ofKey "project" "ops"]) .empty with
  | error fault => simp [made, Except.map, Except.toOption] at passes
  | ok c =>
    have loaded : Loaded [excluding] (some [.ofKey "project" "ops"]) .empty 4 c := .inTurn (Or.inr (by decide)) made
    obtain ⟨r, rules, exclusive⟩ : ∃ r, c.rules.rules = [r] ∧ r.inclusive = false := by
      have one : c.rules.rules.map Rule.inclusive = [false] := by
        simpa [made, Except.map, Except.toOption] using passes
      simpa [List.map_eq_cons_iff] using one
    exact ⟨c, r, loaded, rules, exclusive, loaded.rule_sound (by simp [rules])⟩

end Collection

end AccessPolicy
