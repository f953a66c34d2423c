import AccessPolicy.Proofs.Collection.Shares
import AccessPolicy.Proofs.Source.Isolation

namespace AccessPolicy.Collection

/-- A place in the stream of a source, with the outcome that is there. -/
structure Place where
  source : String
  index : Nat
  outcome : Source.Outcome

namespace Place

/-- The identity under which policies and messages from a place stand. -/
def identity (p : Place) : String := Source.itemIdentity p.source p.index

/-- What a place brings, or nothing if it ends the making of the collection. -/
def gain (pinned : Option (List Attribute)) (p : Place) : Progress :=
  match Progress.nothing.take pinned p.source p.index p.index p.outcome with
  | .ok (some gain) => gain
  | _ => .nothing

/-- A place holds a document that comes to a policy. -/
def Compiles (pinned : Option (List Attribute)) (p : Place) (policy : Policy) : Prop :=
  ∃ d, p.outcome = .item (.document d) ∧ policy.MadeFrom d p.identity p.index pinned

/-- What is told of a place: why it holds no document, or why its document comes to no policy. -/
inductive Tells (pinned : Option (List Attribute)) (p : Place) : String → Prop
  | unusable {message : String} (told : p.outcome.reception = .told message) : p.Tells pinned message
  | refused {d : Document} {fault : PolicyFault} (given : p.outcome = .item (.document d))
      (faulty : Policy.ofDocument d p.identity p.index pinned = .error fault) (formal : fault.isFormal = true) :
      p.Tells pinned fault.message

/-- What a place may bring. -/
inductive Brings (pinned : Option (List Attribute)) (p : Place) : Progress → Prop
  | policy {policy : Policy} (compiles : p.Compiles pinned policy) : p.Brings pinned ⟨[policy], .empty⟩
  | message {message : String} (tells : p.Tells pinned message) : p.Brings pinned ⟨[], ⟨[⟨p.identity, message⟩]⟩⟩
  | null (empty : p.outcome = .item (.data .null)) : p.Brings pinned .nothing

theorem Brings.policy_source {pinned : Option (List Attribute)} {p : Place} {gain : Progress} {policy : Policy}
    (brings : p.Brings pinned gain) (member : policy ∈ gain.policies) :
    policy.source = p.identity ∧ policy.index = p.index := by
  cases brings with
  | policy compiles =>
    obtain ⟨d, _, made⟩ := compiles
    obtain rfl := List.mem_singleton.mp member
    exact ⟨made.source, made.index⟩
  | message | null => cases member

theorem Brings.note_identity {pinned : Option (List Attribute)} {p : Place} {gain : Progress} {note : Note}
    (brings : p.Brings pinned gain) (member : note ∈ gain.diagnostics.notes) : note.identity = p.identity := by
  cases brings with
  | message tells =>
    obtain rfl := List.mem_singleton.mp member
    rfl
  | policy | null => cases member

theorem Brings.keys_sublist {pinned : Option (List Attribute)} {p : Place} {gain : Progress}
    (brings : p.Brings pinned gain) :
    (gain.policies.map fun policy => (policy.source, policy.index)).Sublist [(p.identity, (p.index : Int))] := by
  cases brings with
  | policy compiles =>
    obtain ⟨d, _, made⟩ := compiles
    simp [made.source, made.index]
  | message | null => exact List.nil_sublist _

theorem Brings.source_sublist {pinned : Option (List Attribute)} {p : Place} {gain : Progress}
    (brings : p.Brings pinned gain) : (gain.policies.map Policy.source).Sublist [p.identity] := by
  simpa [Function.comp_def] using brings.keys_sublist.map Prod.fst

theorem Brings.tells_of_note {pinned : Option (List Attribute)} {p : Place} {gain : Progress} {note : Note}
    (brings : p.Brings pinned gain) (member : note ∈ gain.diagnostics.notes) :
    gain.policies = [] ∧ ∃ message, p.Tells pinned message ∧ gain.diagnostics.notes.map Note.message = [message] := by
  cases brings with
  | message tells => exact ⟨rfl, _, tells, rfl⟩
  | policy | null => cases member

theorem eq_null_of_silent {o : Source.Outcome} (silent : o.reception = .silent) : o = .item (.data .null) := by
  unfold Source.Outcome.reception at silent
  split at silent <;> first | rfl | cases silent | (split at silent <;> cases silent)

theorem eq_document_of_reception {o : Source.Outcome} {d : Document} (reception : o.reception = .document d) :
    o = .item (.document d) := by
  unfold Source.Outcome.reception at reception
  split at reception <;> first | (cases reception; rfl) | cases reception | (split at reception <;> cases reception)

/-- A place that is passed brings what a place may bring, and its outcome ends nothing. -/
theorem brings_of_take {pinned : Option (List Attribute)} {p : Place} {gain : Progress}
    (passed : Progress.nothing.take pinned p.source p.index p.index p.outcome = .ok (some gain)) :
    p.outcome.reception.continues = true ∧ p.gain pinned = gain ∧ p.Brings pinned gain := by
  refine ⟨?_, by simp [Place.gain, passed], ?_⟩
  · unfold Progress.take at passed
    cases reception : p.outcome.reception <;> simp_all [Source.Reception.continues]
  · unfold Progress.take at passed
    cases reception : p.outcome.reception with
    | document d =>
      cases made : Policy.ofDocument d (Source.itemIdentity p.source p.index) p.index pinned with
      | ok policy =>
        obtain rfl : Progress.mk [policy] .empty = gain := by simpa [reception, made, Progress.nothing] using passed
        exact .policy ⟨d, eq_document_of_reception reception, Policy.ofDocument_eq_ok_iff.mp made⟩
      | error fault =>
        cases formal : fault.isFormal with
        | false => simp [reception, made, formal] at passed
        | true =>
          obtain rfl : Progress.mk [] ⟨[⟨p.identity, fault.message⟩]⟩ = gain := by
            simpa [reception, made, formal, identity, Progress.nothing, Diagnostics.add, Diagnostics.empty] using passed
          exact .message (.refused (eq_document_of_reception reception) made formal)
    | silent =>
      obtain rfl : Progress.nothing = gain := by simpa [reception] using passed
      exact .null (eq_null_of_silent reception)
    | told message =>
      obtain rfl : Progress.mk [] ⟨[⟨p.identity, message⟩]⟩ = gain := by
        simpa [reception, identity, Progress.nothing, Diagnostics.add, Diagnostics.empty] using passed
      exact .message (.unusable reception)
    | stop | abort => simp [reception] at passed

end Place

/-- The places of outcomes, the first of which has the given index. -/
def placesFrom (source : String) (index : Nat) : List Source.Outcome → List Place
  | [] => []
  | o :: rest => ⟨source, index, o⟩ :: placesFrom source (index + 1) rest

/-- The places of a source. A source that cannot be opened has none. -/
def places (s : Source) : List Place :=
  match s.outcomes with
  | .ok outcomes => placesFrom s.identity 1 outcomes
  | .error _ => []

theorem mem_placesFrom {source : String} {index : Nat} {outcomes : List Source.Outcome} {p : Place} :
    p ∈ placesFrom source index outcomes ↔ ∃ k o, outcomes[k]? = some o ∧ p = ⟨source, index + k, o⟩ := by
  induction outcomes generalizing index with
  | nil => simp [placesFrom]
  | cons first rest ih =>
    rw [placesFrom, List.mem_cons, ih]
    constructor
    · rintro (rfl | ⟨k, o, atK, rfl⟩)
      · exact ⟨0, first, rfl, rfl⟩
      · exact ⟨k + 1, o, by simpa using atK, by rw [Nat.add_assoc, Nat.add_comm 1]⟩
    · rintro ⟨k, o, atK, rfl⟩
      cases k with
      | zero =>
        obtain rfl : first = o := by simpa using atK
        exact Or.inl rfl
      | succ k => exact Or.inr ⟨k, o, by simpa using atK, by rw [Nat.add_assoc, Nat.add_comm 1]⟩

theorem placesFrom_distinct (source : String) (index : Nat) (outcomes : List Source.Outcome) :
    (placesFrom source index outcomes).Pairwise fun p q => p.identity ≠ q.identity := by
  induction outcomes generalizing index with
  | nil => exact .nil
  | cons o rest ih =>
    refine List.pairwise_cons.mpr ⟨fun q member same => ?_, ih (index + 1)⟩
    obtain ⟨k, _, _, rfl⟩ := mem_placesFrom.mp member
    have indices : index = index + 1 + k := (Source.itemIdentity_inj same).2
    omega

theorem source_of_mem_places {s : Source} {p : Place} (member : p ∈ places s) : p.source = s.identity := by
  unfold places at member
  split at member
  · obtain ⟨_, _, _, rfl⟩ := mem_placesFrom.mp member
    rfl
  · simp at member

theorem reception_ne_stop {s : Source} {outcomes : List Source.Outcome} {o : Source.Outcome}
    (opened : s.outcomes = .ok outcomes) (member : o ∈ outcomes) : o.reception ≠ .stop := by
  have ofPart : ∀ part : Source.Part, part.outcome.reception ≠ .stop := by
    intro part
    by_cases escapes : part.Escapes
    · obtain ⟨t, _, abort⟩ := Source.Part.reception_of_escapes escapes
      simp [abort]
    · intro stop
      have continues := (Source.Part.reception_of_not_escapes escapes).1
      simp [stop, Source.Reception.continues] at continues
  unfold Source.outcomes at opened
  cases fed : s.feed with
  | error fault => simp [fed, Except.map] at opened
  | ok feed =>
    obtain rfl : feed.outcomes = outcomes := by simpa [fed, Except.map] using opened
    unfold Source.Feed.outcomes at member
    split at member
    · obtain ⟨part, _, rfl⟩ := List.mem_map.mp member
      exact ofPart part
    · rcases List.mem_append.mp member with inParts | last
      · obtain ⟨part, _, rfl⟩ := List.mem_map.mp inParts
        exact ofPart part
      · obtain rfl := List.mem_singleton.mp last
        simp [Source.Outcome.reception, Source.Trouble.wording?]

/-- Outcomes that are all taken in bring what their places bring, one after the other. The two counts stay in step, as
each outcome moves both, so a place has one identity for its messages and its policy. -/
theorem brings_of_takeFrom {pinned : Option (List Attribute)} {source : String} {index : Nat}
    {outcomes : List Source.Outcome} {gain : Progress} (endless : ∀ o ∈ outcomes, o.reception ≠ .stop)
    (passed : Progress.nothing.takeFrom pinned source index index outcomes = .ok gain) :
    gain = .total ((placesFrom source index outcomes).map (Place.gain pinned)) ∧
      ∀ p ∈ placesFrom source index outcomes,
        p.outcome.reception.continues = true ∧ p.Brings pinned (p.gain pinned) := by
  induction outcomes generalizing index gain with
  | nil =>
    obtain rfl : Progress.nothing = gain := by simpa [Progress.takeFrom] using passed
    simp [placesFrom, Progress.total, Progress.nothing, Diagnostics.empty]
  | cons o rest ih =>
    rw [List.forall_mem_cons] at endless
    rw [Progress.takeFrom_cons] at passed
    cases first : Progress.nothing.take pinned source index index o with
    | error fault => simp [first] at passed
    | ok next =>
      cases next with
      | none =>
        have ended : o.reception = .stop := Progress.stop_of_take first
        exact absurd ended endless.1
      | some share =>
        obtain ⟨continues, same, brings⟩ := @Place.brings_of_take pinned ⟨source, index, o⟩ share first
        simp only [first] at passed
        rw [Progress.takeFrom_frame] at passed
        cases later : Progress.nothing.takeFrom pinned source (index + 1) (index + 1) rest with
        | error fault => simp [later, Except.map] at passed
        | ok others =>
          obtain rfl : share.append others = gain := by simpa [later, Except.map] using passed
          obtain ⟨rfl, all⟩ := ih endless.2 later
          refine ⟨?_, List.forall_mem_cons.mpr ⟨⟨continues, by rw [same]; exact brings⟩, all⟩⟩
          rw [placesFrom, List.map_cons, Progress.total_cons, same]

/-- No two places have one identity, unless two sources do. -/
theorem places_distinct {sources : List Source} (distinct : (sources.map Source.identity).Nodup) :
    (sources.flatMap places).Pairwise fun p q => p.identity ≠ q.identity := by
  rw [List.pairwise_flatMap]
  constructor
  · intro s _
    unfold places
    split
    · exact placesFrom_distinct ..
    · exact .nil
  · refine (List.pairwise_map.mp distinct).imp fun different p inS q inT same => ?_
    have sources := (Source.itemIdentity_inj same).1
    rw [source_of_mem_places inS, source_of_mem_places inT] at sources
    exact different sources

/-- Of the items of several places, those that bear the name of one place are its own. -/
theorem filter_flatMap_name {α β κ : Type} [DecidableEq κ] {owners : List α} {items : α → List β} {name : α → κ}
    {label : β → κ} (distinct : owners.Pairwise fun a b => name a ≠ name b)
    (own : ∀ a ∈ owners, ∀ b ∈ items a, label b = name a) {a : α} (member : a ∈ owners) :
    (owners.flatMap items).filter (fun b => label b = name a) = items a := by
  induction owners with
  | nil => simp at member
  | cons first rest ih =>
    rw [List.pairwise_cons] at distinct
    have later := fun b inRest => own b (List.mem_cons_of_mem first inRest)
    rw [List.flatMap_cons, List.filter_append]
    rcases List.mem_cons.mp member with rfl | inRest
    · have all : (items a).filter (fun b => label b = name a) = items a := by
        simpa [List.filter_eq_self] using own a (List.mem_cons_self ..)
      have none : (rest.flatMap items).filter (fun b => label b = name a) = [] := by
        simp only [List.filter_eq_nil_iff, List.mem_flatMap, decide_eq_true_eq]
        rintro b ⟨c, inRest, inItems⟩ same
        exact distinct.1 c inRest (same.symm.trans (later c inRest b inItems))
      rw [all, none, List.append_nil]
    · have none : (items first).filter (fun b => label b = name a) = [] := by
        simp only [List.filter_eq_nil_iff, decide_eq_true_eq]
        intro b inItems same
        exact distinct.1 a inRest ((own first (List.mem_cons_self ..) b inItems).symm.trans same)
      rw [none, List.nil_append, ih distinct.2 later inRest]

end AccessPolicy.Collection
