import AccessPolicy.Proofs.Yaml.Places
import AccessPolicy.Yaml.Event.Supply

namespace AccessPolicy.Yaml

variable {P : Mark → Prop}

/-- Whether the places are of a kind that are told where no event follows. -/
def Halt.Places (P : Mark → Prop) : Halt → Prop
  | noToken => True
  | fault failure => failure.Places P

namespace Grammar

variable {g : Grammar} {token : Token} {place : Mark}

/-- Whether the places are of a kind that a grammar knows or has ahead. -/
structure Places (P : Mark → Prop) (g : Grammar) : Prop where
  tokens : ∀ token ∈ g.tokens, token.Places P
  opened : ∀ place ∈ g.opened, P place

/-- Whether an event follows at a place of a kind, or a halt that tells places of that kind. -/
def Gives (P : Mark → Prop) : Except Halt (Event × Grammar) → Prop :=
  Meets (fun r => P r.1.place ∧ r.2.Places P) (Halt.Places P)

/-- Whether the places of some properties are of a kind. -/
structure Properties.Places (P : Mark → Prop) (p : Properties) : Prop where
  start : ∀ place, p.start = some place → P place
  tagStart : ∀ place, p.tagStart = some place → P place

theorem gives_event {event : Event} (here : P event.place) (places : g.Places P) : Gives P (.ok (event, g)) :=
  ⟨here, places⟩

section Passing

theorem meets_peek (places : g.Places P) : Meets (Token.Places P) (Halt.Places P) g.peek := by
  unfold peek
  split
  · trivial
  · rename_i token rest tokens
    exact places.tokens token (by simp [tokens])

theorem Places.drop (places : g.Places P) : g.drop.Places P :=
  { places with tokens := fun token member => places.tokens token (List.mem_of_mem_drop member) }

theorem Places.expect (places : g.Places P) (next : Expected) : (g.expect next).Places P := { places with }

theorem Places.openAt (places : g.Places P) (here : P place) : (g.openAt place).Places P :=
  { places.drop with opened := List.forall_mem_cons.mpr ⟨here, places.opened⟩ }

theorem Places.close (places : g.Places P) : g.close.Places P :=
  { places.drop with opened := fun place member => places.opened place (List.mem_of_mem_drop member) }

theorem meets_refuse {α : Type} {right : α → Prop} {during : Option (Activity × Option Mark)} {problem : Problem}
    (here : P place) (began : ∀ activity mark, during = some (activity, some mark) → P mark) :
    Meets right (Halt.Places P) (refuse during problem place : Except Halt α) :=
  failure_places_form here began

theorem gives_refuseEnd {activity : Activity} {problem : String → Problem} (places : g.Places P)
    (known : token.Places P) : Gives P (g.refuseEnd activity problem token) :=
  meets_refuse known.start fun _ mark same => by
    obtain ⟨_, first⟩ := Prod.mk.inj (Option.some.inj same)
    exact places.opened mark (List.mem_of_mem_head? first)

end Passing

section Nodes

theorem meets_readProperties (places : g.Places P) :
    Meets (fun r => r.1.Places P ∧ r.2.Places P) (Halt.Places P) g.readProperties := by
  unfold readProperties
  refine (meets_peek places).bind fun first known => ?_
  dsimp only
  split
  · refine (meets_peek places.drop).bind fun second follows => ?_
    split
    · refine ⟨⟨fun place same => ?_, fun place same => ?_⟩, places.drop.drop⟩
      · exact Option.some.inj same ▸ known.start
      · exact Option.some.inj same ▸ follows.start
    · refine ⟨⟨fun place same => ?_, fun place none => nomatch none⟩, places.drop⟩
      exact Option.some.inj same ▸ known.start
  · refine (meets_peek places.drop).bind fun second follows => ?_
    have tagged (anchor : Option String) (tag : Option (Option String × String)) :
        Properties.Places P ⟨anchor, tag, some first.start, some first.start⟩ :=
      ⟨fun place same => Option.some.inj same ▸ known.start, fun place same => Option.some.inj same ▸ known.start⟩
    split
    · exact ⟨tagged .., places.drop.drop⟩
    · exact ⟨tagged .., places.drop⟩
  · exact ⟨⟨fun place none => (nomatch none), fun place none => (nomatch none)⟩, places⟩

theorem meets_resolveTag {p : Properties} (known : p.Places P) (here : P place) :
    Meets (fun _ => True) (Halt.Places P) (g.resolveTag p place) := by
  unfold resolveTag
  split
  · trivial
  · trivial
  · split
    · trivial
    · refine meets_refuse ?_ fun _ mark same => ?_
      · cases start : p.tagStart with
        | none => exact here
        | some tagStart => exact known.tagStart tagStart start
      · exact known.start mark (Prod.mk.inj (Option.some.inj same)).2

theorem gives_noContent (block : Bool) (p : Properties) (given : Option String) (here : P place)
    (known : token.Places P) (places : g.Places P) : Gives P (readNoContent block p given place token g) := by
  unfold readNoContent
  split
  · exact gives_event here places
  · refine meets_refuse known.start fun _ mark same => ?_
    obtain ⟨_, same⟩ := Prod.mk.inj (Option.some.inj same)
    exact Option.some.inj same ▸ here

theorem gives_content (block indentless : Bool) (p : Properties) (given : Option String) (here : P place)
    (places : g.Places P) : Gives P (readContent block indentless p given place g) := by
  unfold readContent
  refine (meets_peek places).bind fun token known => ?_
  have without := gives_noContent block p given here known places
  dsimp only
  split
  · exact gives_event here places.drop
  · exact gives_event here (places.expect _)
  · exact gives_event here (places.expect _)
  · split
    · exact gives_event here (places.expect _)
    · exact without
  · split
    · exact gives_event here (places.expect _)
    · exact without
  · split
    · exact gives_event here (places.expect _)
    · exact without
  · exact without

theorem gives_node (block indentless : Bool) (places : g.Places P) : Gives P (readNode block indentless g) := by
  unfold readNode
  refine (meets_peek places).bind fun first known => ?_
  dsimp only
  split
  · exact gives_event known.start places.drop
  · refine (meets_readProperties places).bind fun (p, after) ⟨properties, left⟩ => ?_
    refine (meets_resolveTag properties known.start).bind fun given _ => ?_
    refine gives_content block indentless p given ?_ left
    cases start : p.start with
    | none => exact known.start
    | some start' => exact properties.start start' start

theorem gives_nodeUnless (stops : List Word) (block indentless : Bool) (after : Expected) (indicator : token.Places P)
    (places : g.Places P) : Gives P (nodeUnless stops block indentless after token g) := by
  unfold nodeUnless
  refine (meets_peek places.drop).bind fun next known => ?_
  split
  · exact gives_event indicator.stop (places.drop.expect after)
  · exact gives_node block indentless (places.drop.expect after)

theorem gives_valueUnless (stops : List Word) (block : Bool) (after : Expected) (places : g.Places P) :
    Gives P (valueUnless stops block after g) := by
  unfold valueUnless
  refine (meets_peek places).bind fun token known => ?_
  split
  · exact gives_nodeUnless stops block block after known places
  · exact gives_event known.start (places.expect after)

end Nodes

section Collections

theorem gives_blockSequenceEntry (places : g.Places P) : Gives P g.blockSequenceEntry := by
  unfold blockSequenceEntry
  refine (meets_peek places).bind fun token known => ?_
  split
  · exact gives_nodeUnless _ _ _ _ known places
  · split
    · exact gives_event known.start places.close
    · exact gives_refuseEnd places known

theorem gives_plainSequenceEntry (places : g.Places P) : Gives P g.plainSequenceEntry := by
  unfold plainSequenceEntry
  refine (meets_peek places).bind fun token known => ?_
  split
  · exact gives_nodeUnless _ _ _ _ known places
  · exact gives_event known.start places

theorem gives_blockMappingKey (places : g.Places P) : Gives P g.blockMappingKey := by
  unfold blockMappingKey
  refine (meets_peek places).bind fun token known => ?_
  split
  · exact gives_nodeUnless _ _ _ _ known places
  · split
    · exact gives_event known.start places.close
    · exact gives_refuseEnd places known

theorem gives_flowSequenceItem (places : g.Places P) : Gives P g.flowSequenceItem := by
  unfold flowSequenceItem
  refine (meets_peek places).bind fun token known => ?_
  split
  · exact gives_event known.start places.close
  · split
    · exact gives_event known.start (places.expect _)
    · exact gives_node _ _ (places.expect _)

theorem gives_flowSequenceEntry (places : g.Places P) : Gives P g.flowSequenceEntry := by
  unfold flowSequenceEntry
  refine (meets_peek places).bind fun token known => ?_
  split
  · exact gives_event known.start places.close
  · split
    · exact gives_flowSequenceItem places.drop
    · exact gives_refuseEnd places known

theorem gives_flowMappingItem (places : g.Places P) : Gives P g.flowMappingItem := by
  unfold flowMappingItem
  refine (meets_peek places).bind fun token known => ?_
  split
  · exact gives_event known.start places.close
  · split
    · exact gives_nodeUnless _ _ _ _ known places
    · exact gives_node _ _ (places.expect _)

theorem gives_flowMappingKey (places : g.Places P) : Gives P g.flowMappingKey := by
  unfold flowMappingKey
  refine (meets_peek places).bind fun token known => ?_
  split
  · exact gives_event known.start places.close
  · split
    · exact gives_flowMappingItem places.drop
    · exact gives_refuseEnd places known

end Collections

section Documents

theorem meets_readDirectives (versioned : Bool) (handles : List (String × String)) {tokens : List Token}
    (known : ∀ token ∈ tokens, token.Places P) :
    Meets (fun r => ∀ token ∈ r.2, token.Places P) (Halt.Places P) (readDirectives versioned handles tokens) := by
  induction tokens generalizing versioned handles with
  | nil => trivial
  | cons token rest ih =>
    obtain ⟨first, others⟩ := List.forall_mem_cons.mp known
    have refused {problem : Problem} : Meets (fun r => ∀ token ∈ r.2, token.Places P) (Halt.Places P)
        (refuse none problem token.start : Except Halt (List (String × String) × List Token)) :=
      meets_refuse first.start fun _ _ none => nomatch none
    rw [readDirectives]
    split
    · split
      · exact refused
      · split
        · exact refused
        · exact ih true handles others
    · split
      · exact refused
      · exact ih versioned _ others
    · exact ih versioned handles others
    · exact known

theorem gives_document (places : g.Places P) : Gives P g.readDocument := by
  have past : Places P { g with tokens := g.tokens.dropWhile endsDocument } :=
    { places with tokens := fun token member => places.tokens token ((List.dropWhile_sublist _).subset member) }
  unfold readDocument
  dsimp only
  refine (meets_peek past).bind fun first known => ?_
  split
  · exact gives_event known.start past.drop
  · refine (meets_readDirectives false [] past.tokens).bind fun (handles, tokens) left => ?_
    have directed : Places P { g with tokens, handles := handles ++ commonHandles } := { places with tokens := left }
    refine (meets_peek directed).bind fun token follows => ?_
    dsimp only
    split
    · exact gives_event known.start ((directed.drop.expect _).expect _)
    · exact meets_refuse follows.start fun _ _ none => nomatch none

theorem gives_firstDocument (places : g.Places P) : Gives P g.firstDocument := by
  unfold firstDocument
  refine (meets_peek places).bind fun token known => ?_
  split
  · exact gives_document places
  · exact gives_event known.start { places with }

theorem gives_documentContent (places : g.Places P) : Gives P g.documentContent := by
  unfold documentContent
  refine (meets_peek places).bind fun token known => ?_
  split
  · exact gives_event known.start places
  · exact gives_node _ _ places

theorem gives_documentEnd (places : g.Places P) : Gives P g.documentEnd := by
  unfold documentEnd
  refine (meets_peek places).bind fun token known => ?_
  refine gives_event known.start (Places.expect ?_ _)
  split
  · exact places.drop
  · exact places

end Documents

theorem gives_step (places : g.Places P) : Gives P g.step := by
  unfold step
  split
  · trivial
  · rename_i next later _
    have places : Places P { g with expected := later } := { places with }
    dsimp only
    refine (meets_peek places).bind fun token known => ?_
    cases next with
    | streamStart => exact gives_event known.start (places.drop.expect _)
    | firstDocument => exact gives_firstDocument places
    | document => exact gives_document places
    | documentContent => exact gives_documentContent places
    | documentEnd => exact gives_documentEnd places
    | blockNode => exact gives_node _ _ places
    | blockSequenceStart => exact gives_blockSequenceEntry (places.openAt known.start)
    | blockSequenceEntry => exact gives_blockSequenceEntry places
    | plainSequenceEntry => exact gives_plainSequenceEntry places
    | blockMappingStart => exact gives_blockMappingKey (places.openAt known.start)
    | blockMappingKey => exact gives_blockMappingKey places
    | blockMappingValue => exact gives_valueUnless _ _ _ places
    | flowSequenceStart => exact gives_flowSequenceItem (places.openAt known.start)
    | flowSequenceEntry => exact gives_flowSequenceEntry places
    | flowPairKey => exact gives_nodeUnless _ _ _ _ known places
    | flowPairValue => exact gives_valueUnless _ _ _ places
    | flowPairEnd => exact gives_event known.start (places.expect _)
    | flowMappingStart => exact gives_flowMappingItem (places.openAt known.start)
    | flowMappingKey => exact gives_flowMappingKey places
    | flowMappingValue => exact gives_valueUnless _ _ _ places
    | flowMappingNoValue => exact gives_event known.start (places.expect _)

theorem run_places {later : Option Failure} (after : ∀ failure, later = some failure → failure.Places P) (steps : Nat)
    (places : g.Places P) : (run later steps g).Places P fun event => P event.place := by
  induction steps generalizing g with
  | zero => exact ⟨fun _ member => (nomatch member), after⟩
  | succ steps ih =>
    have step := gives_step places
    rw [run]
    cases next : g.step with
    | error halt =>
      have known := step.of_error next
      cases halt with
      | noToken => exact ⟨fun _ member => (nomatch member), after⟩
      | fault failure => exact ⟨fun _ member => (nomatch member), fun other same => Option.some.inj same ▸ known⟩
    | ok taken =>
      obtain ⟨event, g'⟩ := taken
      obtain ⟨here, places⟩ := step.of_ok next
      exact ⟨List.forall_mem_cons.mpr ⟨here, (ih places).items⟩, (ih places).failure⟩

end Grammar

/-- The places of events, and those that a failure among them tells, are those of tokens, or those that a failure among
the tokens tells. -/
theorem events_places {tokens : Supply Token} (known : tokens.Places P (Token.Places P)) :
    (events tokens).Places P fun event => P event.place :=
  Grammar.run_places known.failure _ ⟨known.items, fun _ member => nomatch member⟩

end AccessPolicy.Yaml
