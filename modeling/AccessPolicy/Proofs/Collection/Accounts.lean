import AccessPolicy.Proofs.Collection.Places
import AccessPolicy.Proofs.Collection.Pool
import AccessPolicy.Proofs.Trials

namespace AccessPolicy.Collection

/-- The ways in which a collection is made. One worker takes the sources in turn. Several workers share them: what each
source brings is gathered in the order of the sources, but the messages are recorded as the workers come to them. -/
inductive Loaded (sources : List Source) (pinned : Option (List Attribute)) (prior : Diagnostics) (workers : Int) :
    Collection → Prop
  | inTurn {c : Collection} (alone : workers ≤ 1 ∨ sources.length ≤ 1) (made : ofSources sources pinned prior = .ok c) :
      Loaded sources pinned prior workers c
  | together {shares : List Progress} {log : Diagnostics} (several : 1 < workers) (many : 1 < sources.length)
      (brought : sources.mapM (Progress.takeSource pinned .nothing) = .ok shares)
      (run : Relation.ReflTransGen (Pool.Step workers)
        (Pool.start (shares.map fun share => share.diagnostics.notes) prior) (Pool.done log)) :
      Loaded sources pinned prior workers
        ⟨sources, shares.flatMap Progress.policies, .merge ((shares.flatMap Progress.policies).map Policy.rules), log⟩

/-- The policies with an identity. -/
def policiesAt (c : Collection) (identity : String) : List Policy :=
  c.policies.filter fun policy => policy.source = identity

/-- What can become of a place. -/
inductive Fate where
  | compiled
  | told
  | blank
deriving DecidableEq, Repr

/-- What it is for a place to have come to a fate in a collection. -/
def Fate.Holds (pinned : Option (List Attribute)) (prior : Diagnostics) (c : Collection) (p : Place) : Fate → Prop
  | compiled =>
    (∃ policy, p.Compiles pinned policy ∧ c.policiesAt p.identity = [policy]) ∧
      prior.newMessages c.diagnostics p.identity = []
  | told =>
    c.policiesAt p.identity = [] ∧
      ∃ message, p.Tells pinned message ∧ prior.newMessages c.diagnostics p.identity = [message]
  | blank =>
    c.policiesAt p.identity = [] ∧ prior.newMessages c.diagnostics p.identity = [] ∧ p.outcome = .item (.data .null)

/-- What a collection accounts for. Every slot of the stream of every source has exactly one fate; the policies stand
in the order of the slots; all earlier messages stay, and the only new ones are those of the slots. -/
structure Accounts (sources : List Source) (pinned : Option (List Attribute)) (prior : Diagnostics) (c : Collection) :
    Prop where
  slots : ∀ s ∈ sources, ∃ outcomes, s.outcomes = .ok outcomes ∧
    (Source.intake s.identity prior outcomes).slots = outcomes.map (fun o => o.reception.slot) ∧
    ∀ k o, outcomes[k]? = some o → ∃! fate : Fate, fate.Holds pinned prior c ⟨s.identity, k + 1, o⟩
  order : (c.policies.map fun policy => (policy.source, policy.index)).Sublist
    ((sources.flatMap places).map fun p => (p.identity, (p.index : Int)))
  kept : ∀ identity, prior.messagesFor identity <+: c.diagnostics.messagesFor identity
  nothingElse : ∀ identity, prior.newMessages c.diagnostics identity ≠ [] →
    ∃ p ∈ sources.flatMap places, p.identity = identity ∧ Fate.told.Holds pinned prior c p

section Gathering

variable {sources : List Source} {pinned : Option (List Attribute)}

/-- What a source brings if all its places do. -/
def share (pinned : Option (List Attribute)) (s : Source) : Progress :=
  .total ((places s).map (Place.gain pinned))

theorem takeSource_eq_share {s : Source} {outcomes : List Source.Outcome} {gain : Progress}
    (opened : s.outcomes = .ok outcomes) (brought : Progress.takeSource pinned .nothing s = .ok gain) :
    gain = share pinned s ∧
      ∀ p ∈ places s, p.outcome.reception.continues = true ∧ p.Brings pinned (p.gain pinned) := by
  have passed : Progress.nothing.takeFrom pinned s.identity 1 1 outcomes = .ok gain := by
    simpa [Progress.takeSource, opened] using brought
  simpa [share, places, opened] using brings_of_takeFrom (fun o => reception_ne_stop opened) passed

/-- Sources that can be read bring what their places bring. -/
theorem shares_eq {shares : List Progress} (readable : ∀ s ∈ sources, ∃ outcomes, s.outcomes = .ok outcomes)
    (brought : sources.mapM (Progress.takeSource pinned .nothing) = .ok shares) :
    shares = sources.map (share pinned) ∧
      ∀ p ∈ sources.flatMap places, p.outcome.reception.continues = true ∧ p.Brings pinned (p.gain pinned) := by
  have each := mapM_eq_ok_iff.mp brought
  clear brought
  induction each with
  | nil => simp
  | @cons s gain rest gains first _ ih =>
    rw [List.forall_mem_cons] at readable
    obtain ⟨outcomes, opened⟩ := readable.1
    obtain ⟨rfl, here⟩ := takeSource_eq_share opened first
    obtain ⟨rfl, later⟩ := ih readable.2
    refine ⟨rfl, fun p member => ?_⟩
    rw [List.flatMap_cons, List.mem_append] at member
    rcases member with inFirst | inRest
    · exact here p inFirst
    · exact later p inRest

theorem policies_shares (pinned : Option (List Attribute)) (sources : List Source) :
    (sources.map (share pinned)).flatMap Progress.policies =
      (sources.flatMap places).flatMap fun p => (p.gain pinned).policies := by
  simp [share, Progress.total, List.flatMap_map, List.flatMap_assoc]

theorem notes_shares (pinned : Option (List Attribute)) (sources : List Source) :
    ((sources.map (share pinned)).flatMap fun share => share.diagnostics.notes) =
      (sources.flatMap places).flatMap fun p => (p.gain pinned).diagnostics.notes := by
  simp [share, Progress.total, List.flatMap_map, List.flatMap_assoc]

/-- Sources with different identities record under different identities. -/
theorem shares_apart (distinct : (sources.map Source.identity).Nodup)
    (brings : ∀ p ∈ sources.flatMap places, p.Brings pinned (p.gain pinned)) :
    Pool.Apart ((sources.map (share pinned)).map fun share => share.diagnostics.notes) := by
  have owner : ∀ s ∈ sources, ∀ note ∈ (share pinned s).diagnostics.notes,
      ∃ k, note.identity = Source.itemIdentity s.identity k := by
    intro s inSources note member
    simp only [share, Progress.total, List.flatMap_map, List.mem_flatMap] at member
    obtain ⟨p, inPlaces, member⟩ := member
    have same := (brings p (List.mem_flatMap.mpr ⟨s, inSources, inPlaces⟩)).note_identity member
    exact ⟨p.index, by rw [same, Place.identity, source_of_mem_places inPlaces]⟩
  unfold Pool.Apart
  rw [List.pairwise_map, List.pairwise_map]
  refine (List.pairwise_map.mp distinct).imp_of_mem fun {s t} inS inT different note atS note' atT same => ?_
  obtain ⟨k, identity⟩ := owner s inS note atS
  obtain ⟨j, identity'⟩ := owner t inT note' atT
  exact different (Source.itemIdentity_inj (identity.symm.trans (same.trans identity'))).1

end Gathering

/-- What a collection has gathered if its places bring what they may: the policies of all places in their order and,
under each identity, what stood there before and then what the places bring. -/
structure Gathered (sources : List Source) (pinned : Option (List Attribute)) (prior : Diagnostics) (c : Collection) :
    Prop where
  brings : ∀ p ∈ sources.flatMap places, p.outcome.reception.continues = true ∧ p.Brings pinned (p.gain pinned)
  policies : c.policies = (sources.flatMap places).flatMap fun p => (p.gain pinned).policies
  messages : ∀ identity, c.diagnostics.messagesFor identity = prior.messagesFor identity ++
    Diagnostics.messagesFor ⟨(sources.flatMap places).flatMap fun p => (p.gain pinned).diagnostics.notes⟩ identity

section Accounting

variable {sources : List Source} {pinned : Option (List Attribute)} {prior : Diagnostics} {c : Collection} {p : Place}

/-- However a collection is made, it is what its sources bring. What they tell comes to stand in one way only if no two
of them tell anything under one identity. -/
theorem Loaded.brought {workers : Int} (loaded : Loaded sources pinned prior workers c) :
    ∃ shares, sources.mapM (Progress.takeSource pinned .nothing) = .ok shares ∧
      c.policies = shares.flatMap Progress.policies ∧ c.rules = .merge (c.policies.map Policy.rules) ∧
      (Pool.Apart (shares.map fun share => share.diagnostics.notes) →
        ∀ identity, c.diagnostics.messagesFor identity = prior.messagesFor identity ++
          Diagnostics.messagesFor ⟨shares.flatMap fun share => share.diagnostics.notes⟩ identity) := by
  cases loaded with
  | inTurn alone made =>
    rw [ofSources_eq] at made
    cases tried : sources.mapM (Progress.takeSource pinned .nothing) with
    | error fault => simp [tried, Except.map] at made
    | ok shares =>
      rw [tried] at made
      obtain rfl := Except.ok.inj made
      exact ⟨shares, rfl, rfl, rfl, fun _ identity => Diagnostics.messagesFor_extend ..⟩
  | @together shares log several many tried run =>
    refine ⟨shares, tried, rfl, rfl, fun apart identity => ?_⟩
    rw [Pool.done_messagesFor run apart identity, List.flatMap_def]

/-- However a collection is made, it has gathered what its places bring. -/
theorem Loaded.gathered {workers : Int} (loaded : Loaded sources pinned prior workers c)
    (distinct : (sources.map Source.identity).Nodup) (readable : ∀ s ∈ sources, ∃ outcomes, s.outcomes = .ok outcomes) :
    Gathered sources pinned prior c := by
  obtain ⟨shares, tried, policies, _, messages⟩ := loaded.brought
  obtain ⟨rfl, brings⟩ := shares_eq readable tried
  refine ⟨brings, by rw [policies, policies_shares], fun identity => ?_⟩
  rw [messages (shares_apart distinct fun p member => (brings p member).2) identity, notes_shares]

theorem Gathered.policiesAt_eq (gathered : Gathered sources pinned prior c)
    (distinct : (sources.map Source.identity).Nodup) (member : p ∈ sources.flatMap places) :
    c.policiesAt p.identity = (p.gain pinned).policies := by
  rw [policiesAt, gathered.policies]
  exact filter_flatMap_name (places_distinct distinct)
    (fun q inPlaces policy inGain => ((gathered.brings q inPlaces).2.policy_source inGain).1) member

theorem Gathered.newMessages_eq (gathered : Gathered sources pinned prior c)
    (distinct : (sources.map Source.identity).Nodup) (member : p ∈ sources.flatMap places) :
    prior.newMessages c.diagnostics p.identity = (p.gain pinned).diagnostics.notes.map Note.message := by
  rw [Diagnostics.newMessages_eq (gathered.messages p.identity), Diagnostics.messagesFor]
  exact congrArg _ (filter_flatMap_name (places_distinct distinct)
    (fun q inPlaces note inGain => (gathered.brings q inPlaces).2.note_identity inGain) member)

theorem Fate.eq_of_holds {fate other : Fate} (holds : fate.Holds pinned prior c p)
    (holdsToo : other.Holds pinned prior c p) : fate = other := by
  cases fate <;> cases other <;> simp_all [Fate.Holds]

/-- A place that stands alone under its identity has the one fate that is due to what it brings. -/
theorem Gathered.existsUnique_fate (gathered : Gathered sources pinned prior c)
    (distinct : (sources.map Source.identity).Nodup) (member : p ∈ sources.flatMap places) :
    ∃! fate : Fate, fate.Holds pinned prior c p := by
  have policies := gathered.policiesAt_eq distinct member
  have messages := gathered.newMessages_eq distinct member
  have some : ∃ fate : Fate, fate.Holds pinned prior c p := by
    have brings := (gathered.brings p member).2
    generalize p.gain pinned = gain at policies messages brings
    cases brings with
    | policy compiles => exact ⟨.compiled, ⟨_, compiles, policies⟩, messages⟩
    | message tells => exact ⟨.told, policies, _, tells, messages⟩
    | null empty => exact ⟨.blank, policies, messages, empty⟩
  obtain ⟨fate, holds⟩ := some
  exact ⟨fate, holds, fun other holdsToo => Fate.eq_of_holds holdsToo holds⟩

/-- Only a place of which something is told has new messages under its identity. -/
theorem Gathered.told_of_newMessages (gathered : Gathered sources pinned prior c)
    (distinct : (sources.map Source.identity).Nodup) {identity : String}
    (fresh : prior.newMessages c.diagnostics identity ≠ []) :
    ∃ p ∈ sources.flatMap places, p.identity = identity ∧ Fate.told.Holds pinned prior c p := by
  rw [Diagnostics.newMessages_eq (gathered.messages identity)] at fresh
  obtain ⟨note, member, rfl⟩ := Diagnostics.exists_note_of_messagesFor_ne_nil fresh
  obtain ⟨p, inPlaces, inGain⟩ := List.mem_flatMap.mp member
  have same := (gathered.brings p inPlaces).2.note_identity inGain
  obtain ⟨none, message, tells, only⟩ := (gathered.brings p inPlaces).2.tells_of_note inGain
  exact ⟨p, inPlaces, same.symm, (gathered.policiesAt_eq distinct inPlaces).trans none, message, tells,
    (gathered.newMessages_eq distinct inPlaces).trans only⟩

theorem sublist_flatMap_of_singletons {α β γ : Type} {owners : List α} {items : α → List β} {label : β → γ}
    {name : α → γ} (single : ∀ a ∈ owners, ((items a).map label).Sublist [name a]) :
    ((owners.flatMap items).map label).Sublist (owners.map name) := by
  induction owners with
  | nil => simp
  | cons first rest ih =>
    rw [List.forall_mem_cons] at single
    rw [List.flatMap_cons, List.map_append, List.map_cons, ← List.singleton_append]
    exact single.1.append (ih single.2)

/-- Every collection of readable sources with different identities accounts for all that they hold. -/
theorem Loaded.accounts {workers : Int} (distinct : (sources.map Source.identity).Nodup)
    (readable : ∀ s ∈ sources, ∃ outcomes, s.outcomes = .ok outcomes)
    (loaded : Loaded sources pinned prior workers c) : Accounts sources pinned prior c := by
  have gathered := loaded.gathered distinct readable
  refine ⟨?_, ?_, ?_, fun identity => gathered.told_of_newMessages distinct⟩
  · intro s inSources
    obtain ⟨outcomes, opened⟩ := readable s inSources
    have inPlaces : ∀ k o, outcomes[k]? = some o → ⟨s.identity, k + 1, o⟩ ∈ sources.flatMap places := by
      intro k o atK
      refine List.mem_flatMap.mpr ⟨s, inSources, ?_⟩
      simp only [places, opened]
      exact mem_placesFrom.mpr ⟨k, o, atK, by rw [Nat.add_comm]⟩
    have continues : ∀ o ∈ outcomes, o.reception.continues = true := by
      intro o member
      obtain ⟨k, atK⟩ := List.mem_iff_getElem?.mp member
      exact (gathered.brings _ (inPlaces k o atK)).1
    exact ⟨outcomes, opened, by rw [Source.intake_all continues],
      fun k o atK => gathered.existsUnique_fate distinct (inPlaces k o atK)⟩
  · rw [gathered.policies]
    exact sublist_flatMap_of_singletons fun p member => (gathered.brings p member).2.keys_sublist
  · intro identity
    rw [gathered.messages identity]
    exact List.prefix_append ..

end Accounting

/-- Two texts, the first with a document that makes a policy, the second with no data and with data of another kind. -/
def twoTexts : List Source :=
  [.ofText
      "description: d\ncontext: \x7bproject: p\x7d\nfor: \x7bjob: [\x7ballow: read\x7d]\x7d\nby: \x7bgroup: dev\x7d\n" "a",
    .ofText "~\n---\n5\n" "b"]

theorem two_texts_accounted :
    ∃ c, Loaded twoTexts none .empty 2 c ∧ c.policies.length = 1 ∧ Accounts twoTexts none .empty c := by
  have distinct : (twoTexts.map Source.identity).Nodup := by decide
  have readable : ∀ s ∈ twoTexts, ∃ outcomes, s.outcomes = .ok outcomes := by
    simp [twoTexts, Source.outcomes, Source.feed, Source.ofText, Except.map]
  have passes : ((twoTexts.mapM (Progress.takeSource none .nothing)).map fun shares =>
      (shares.flatMap Progress.policies).length).toOption = some 1 := by decide +kernel
  cases brought : twoTexts.mapM (Progress.takeSource none .nothing) with
  | error fault => simp [brought, Except.map, Except.toOption] at passes
  | ok shares =>
    have run := Pool.exists_run (by decide : (1 : Int) ≤ 2) (shares.map fun share => share.diagnostics.notes) .empty
    have loaded := Loaded.together (by decide) (by decide) brought run
    exact ⟨_, loaded, by simpa [brought, Except.map, Except.toOption] using passes,
      Loaded.accounts distinct readable loaded⟩

end AccessPolicy.Collection
