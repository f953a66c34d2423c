import AccessPolicy.Proofs.Conditions
import AccessPolicy.Yaml.Event.Supply
import Mathlib.Algebra.GroupWithZero.Nat

namespace AccessPolicy.Yaml

/-- How many events something that is expected can lead to, at most, before a token is taken. -/
def Expected.weight : Expected → Nat
  | .firstDocument => 5
  | .documentContent | .documentEnd | .blockNode | .flowPairValue => 2
  | .blockSequenceEntry | .blockMappingKey | .flowSequenceEntry | .flowMappingKey => 0
  | _ => 1

namespace Grammar

/-- How many events can follow at most. -/
def potential (g : Grammar) : Nat := 5 * g.tokens.length + (g.expected.map Expected.weight).sum

variable {g : Grammar} {token : Token} {rest : List Token}

@[simp] theorem potential_expect (g : Grammar) (next : Expected) :
    (g.expect next).potential = g.potential + next.weight := by
  simp only [potential, expect, List.map_cons, List.sum_cons]
  omega

theorem potential_drop (next : g.tokens = token :: rest) : g.drop.potential + 5 = g.potential := by
  simp only [potential, drop, next, List.drop_one, List.tail_cons, List.length_cons]
  omega

theorem potential_drop_le (g : Grammar) : g.drop.potential ≤ g.potential := by
  simp only [potential, drop, List.length_drop]
  omega

@[simp] theorem potential_openAt (g : Grammar) (place : Mark) : (g.openAt place).potential = g.drop.potential := rfl

@[simp] theorem potential_close (g : Grammar) : g.close.potential = g.drop.potential := rfl

theorem meets_peek_cons (g : Grammar) : Meets (fun token => ∃ rest, g.tokens = token :: rest) (fun _ => True) g.peek := by
  unfold peek
  split
  · trivial
  · rename_i token rest here
    exact ⟨rest, here⟩

theorem meets_readProperties_fewer (g : Grammar) :
    Meets (fun r => r.2.potential ≤ g.potential) (fun _ => True) g.readProperties := by
  have once := g.potential_drop_le
  have twice := g.drop.potential_drop_le
  refine g.meets_peek_cons.bind fun first _ => ?_
  split
  · refine g.drop.meets_peek_cons.bind fun second _ => ?_
    split
    · exact Nat.le_trans twice once
    · exact once
  · refine g.drop.meets_peek_cons.bind fun second _ => ?_
    split
    · exact Nat.le_trans twice once
    · exact once
  · exact Nat.le_refl g.potential

theorem meets_readNoContent_fewer (block : Bool) (p : Properties) (given : Option String) (place : Mark) (token : Token)
    (g : Grammar) :
    Meets (fun r => r.2.potential ≤ g.potential + 1) (fun _ => True) (readNoContent block p given place token g) := by
  unfold readNoContent
  split
  · exact Nat.le_succ g.potential
  · trivial

theorem meets_readContent_fewer (block indentless : Bool) (p : Properties) (given : Option String)
    (place : Mark) (g : Grammar) :
    Meets (fun r => r.2.potential ≤ g.potential + 1) (fun _ => True) (g.readContent block indentless p given place) := by
  have expecting {next : Expected} (light : next.weight = 1) : (g.expect next).potential ≤ g.potential + 1 :=
    Nat.le_of_eq (light ▸ potential_expect g next)
  refine g.meets_peek_cons.bind fun token _ => ?_
  split
  · exact Nat.le_succ_of_le g.potential_drop_le
  · exact expecting rfl
  · exact expecting rfl
  · split
    · exact expecting rfl
    · exact meets_readNoContent_fewer ..
  · split
    · exact expecting rfl
    · exact meets_readNoContent_fewer ..
  · split
    · exact expecting rfl
    · exact meets_readNoContent_fewer ..
  · exact meets_readNoContent_fewer ..

theorem meets_readNode_fewer (block indentless : Bool) (g : Grammar) :
    Meets (fun r => r.2.potential ≤ g.potential + 1) (fun _ => True) (g.readNode block indentless) := by
  refine g.meets_peek_cons.bind fun first _ => ?_
  split
  · exact Nat.le_succ_of_le g.potential_drop_le
  · refine g.meets_readProperties_fewer.bind fun (p, after) fewer => ?_
    refine meets_any.bind fun given _ => ?_
    exact (after.meets_readContent_fewer ..).mono fun r known => Nat.le_trans known (Nat.succ_le_succ fewer)

theorem meets_nodeUnless_fewer (stops : List Word) (block indentless : Bool) (after : Expected)
    (indicator : Token) (g : Grammar) :
    Meets (fun r => r.2.potential + 4 ≤ g.potential + after.weight) (fun _ => True)
      (g.nodeUnless stops block indentless after indicator) := by
  unfold nodeUnless
  refine g.drop.meets_peek_cons.bind fun token ⟨rest, next⟩ => ?_
  obtain ⟨indicator, some⟩ : ∃ first, g.tokens = first :: token :: rest := by
    cases tokens : g.tokens with
    | nil => simp [drop, tokens] at next
    | cons first later => exact ⟨first, by simpa [drop, tokens] using next⟩
  have dropped := potential_drop some
  split
  · show (g.drop.expect after).potential + 4 ≤ _
    rw [potential_expect]
    omega
  · refine (meets_readNode_fewer block indentless (g.drop.expect after)).mono fun r known => ?_
    rw [potential_expect] at known
    omega

theorem meets_valueUnless_fewer (stops : List Word) (block : Bool) (after : Expected) (g : Grammar) :
    Meets (fun r => r.2.potential ≤ g.potential + after.weight) (fun _ => True) (g.valueUnless stops block after) := by
  refine g.meets_peek_cons.bind fun token _ => ?_
  split
  · exact (meets_nodeUnless_fewer ..).mono fun r known => Nat.le_trans (Nat.le_add_right _ 4) known
  · exact Nat.le_of_eq (potential_expect g after)

theorem meets_blockSequenceEntry_fewer (g : Grammar) :
    Meets (fun r => r.2.potential + 4 ≤ g.potential) (fun _ => True) g.blockSequenceEntry := by
  refine g.meets_peek_cons.bind fun token ⟨rest, next⟩ => ?_
  have dropped := potential_drop next
  split
  · exact meets_nodeUnless_fewer ..
  · split
    · show g.close.potential + 4 ≤ _
      rw [potential_close]
      omega
    · trivial

theorem meets_plainSequenceEntry_fewer (g : Grammar) :
    Meets (fun r => r.2.potential ≤ g.potential) (fun _ => True) g.plainSequenceEntry := by
  refine g.meets_peek_cons.bind fun token _ => ?_
  split
  · refine (meets_nodeUnless_fewer _ true false .plainSequenceEntry token g).mono fun r known => ?_
    simp only [Expected.weight] at known
    omega
  · exact Nat.le_refl g.potential

theorem meets_blockMappingKey_fewer (g : Grammar) :
    Meets (fun r => r.2.potential + 3 ≤ g.potential) (fun _ => True) g.blockMappingKey := by
  refine g.meets_peek_cons.bind fun token ⟨rest, next⟩ => ?_
  have dropped := potential_drop next
  split
  · refine (meets_nodeUnless_fewer _ true true .blockMappingValue token g).mono fun r known => ?_
    simp only [Expected.weight] at known
    omega
  · split
    · show g.close.potential + 3 ≤ _
      rw [potential_close]
      omega
    · trivial

theorem meets_flowSequenceItem_fewer (g : Grammar) :
    Meets (fun r => r.2.potential ≤ g.potential + 1) (fun _ => True) g.flowSequenceItem := by
  refine g.meets_peek_cons.bind fun token _ => ?_
  split
  · exact Nat.le_succ_of_le g.potential_drop_le
  · split
    · exact Nat.le_of_eq (potential_expect g .flowPairKey)
    · refine (meets_readNode_fewer false false (g.expect .flowSequenceEntry)).mono fun r known => ?_
      simpa [Expected.weight] using known

theorem meets_flowSequenceEntry_fewer (g : Grammar) :
    Meets (fun r => r.2.potential + 4 ≤ g.potential) (fun _ => True) g.flowSequenceEntry := by
  refine g.meets_peek_cons.bind fun token ⟨rest, next⟩ => ?_
  have dropped := potential_drop next
  split
  · show g.close.potential + 4 ≤ _
    rw [potential_close]
    omega
  · split
    · exact g.drop.meets_flowSequenceItem_fewer.mono fun r known => by omega
    · trivial

theorem meets_flowMappingItem_fewer (g : Grammar) :
    Meets (fun r => r.2.potential ≤ g.potential + 2) (fun _ => True) g.flowMappingItem := by
  refine g.meets_peek_cons.bind fun token _ => ?_
  split
  · exact Nat.le_trans g.potential_drop_le (Nat.le_add_right _ 2)
  · split
    · refine (meets_nodeUnless_fewer _ false false .flowMappingValue token g).mono fun r known => ?_
      simp only [Expected.weight] at known
      omega
    · refine (meets_readNode_fewer false false (g.expect .flowMappingNoValue)).mono fun r known => ?_
      simpa [Expected.weight] using known

theorem meets_flowMappingKey_fewer (g : Grammar) :
    Meets (fun r => r.2.potential + 3 ≤ g.potential) (fun _ => True) g.flowMappingKey := by
  refine g.meets_peek_cons.bind fun token ⟨rest, next⟩ => ?_
  have dropped := potential_drop next
  split
  · show g.close.potential + 3 ≤ _
    rw [potential_close]
    omega
  · split
    · exact g.drop.meets_flowMappingItem_fewer.mono fun r known => by omega
    · trivial

theorem meets_readDirectives_fewer (versioned : Bool) (handles : List (String × String)) (tokens : List Token) :
    Meets (fun r => r.2.length ≤ tokens.length) (fun _ => True) (readDirectives versioned handles tokens) := by
  induction tokens generalizing versioned handles with
  | nil => trivial
  | cons token rest ih =>
    have later (versioned : Bool) (handles : List (String × String)) :
        Meets (fun r => r.2.length ≤ (token :: rest).length) (fun _ => True) (readDirectives versioned handles rest) :=
      (ih versioned handles).mono fun r known => Nat.le_succ_of_le known
    rw [readDirectives]
    split
    · split
      · trivial
      · split
        · trivial
        · exact later ..
    · split
      · trivial
      · exact later ..
    · exact later ..
    · exact Nat.le_refl (token :: rest).length

theorem meets_readDocument_fewer (g : Grammar) :
    Meets (fun r => r.2.potential + 1 ≤ g.potential) (fun _ => True) g.readDocument := by
  have fewer : (g.tokens.dropWhile endsDocument).length ≤ g.tokens.length := (List.dropWhile_sublist _).length_le
  unfold readDocument
  generalize g.tokens.dropWhile endsDocument = tokens at fewer
  refine (meets_peek_cons { g with tokens }).bind fun first ⟨rest, next⟩ => ?_
  have dropped := potential_drop next
  have less : potential { g with tokens } ≤ g.potential := by
    simp only [potential]
    omega
  split
  · show (drop { g with tokens }).potential + 1 ≤ _
    omega
  · refine (meets_readDirectives_fewer false [] tokens).bind fun (handles, later) shorter => ?_
    refine (meets_peek_cons { g with tokens := later, handles := handles ++ commonHandles }).bind
      fun token ⟨rest', next'⟩ => ?_
    have dropped' := potential_drop next'
    have less' : potential { g with tokens := later, handles := handles ++ commonHandles } ≤ potential { g with tokens } := by
      simp only [potential] at *
      omega
    split
    · show (((drop _).expect .documentEnd).expect .documentContent).potential + 1 ≤ _
      simp only [potential_expect, Expected.weight]
      omega
    · trivial

/-- Each step leaves less. -/
theorem meets_step_fewer (g : Grammar) : Meets (fun r => r.2.potential < g.potential) (fun _ => True) g.step := by
  unfold step
  cases expected : g.expected with
  | nil => trivial
  | cons next later =>
    have whole : g.potential = potential { g with expected := later } + next.weight := by
      simp only [potential, expected, List.map_cons, List.sum_cons]
      omega
    dsimp only
    generalize ({ g with expected := later } : Grammar) = g₁ at whole ⊢
    refine g₁.meets_peek_cons.bind fun token ⟨rest, left⟩ => ?_
    have dropped := potential_drop left
    cases next <;> simp only [Expected.weight] at whole <;> dsimp only
    case streamStart =>
      show (g₁.drop.expect .firstDocument).potential < _
      simp only [potential_expect, Expected.weight]
      omega
    case firstDocument =>
      refine g₁.meets_peek_cons.bind fun _ _ => ?_
      split
      · exact g₁.meets_readDocument_fewer.mono fun r known => by omega
      · show (({ g₁ with handles := commonHandles }.expect .documentEnd).expect .blockNode).potential < _
        simp only [potential_expect, Expected.weight]
        change g₁.potential + 2 + 2 < _
        omega
    case document => exact g₁.meets_readDocument_fewer.mono fun r known => by omega
    case documentContent =>
      refine g₁.meets_peek_cons.bind fun _ _ => ?_
      split
      · show g₁.potential < _
        omega
      · exact (g₁.meets_readNode_fewer true false).mono fun r known => by omega
    case documentEnd =>
      refine g₁.meets_peek_cons.bind fun _ _ => ?_
      show (expect _ .document).potential < _
      rw [potential_expect]
      split <;> simp only [Expected.weight] <;> omega
    case blockNode => exact (g₁.meets_readNode_fewer true false).mono fun r known => by omega
    case blockSequenceStart =>
      refine (g₁.openAt token.start).meets_blockSequenceEntry_fewer.mono fun r known => ?_
      rw [potential_openAt] at known
      omega
    case blockSequenceEntry => exact g₁.meets_blockSequenceEntry_fewer.mono fun r known => by omega
    case plainSequenceEntry => exact g₁.meets_plainSequenceEntry_fewer.mono fun r known => by omega
    case blockMappingStart =>
      refine (g₁.openAt token.start).meets_blockMappingKey_fewer.mono fun r known => ?_
      rw [potential_openAt] at known
      omega
    case blockMappingKey => exact g₁.meets_blockMappingKey_fewer.mono fun r known => by omega
    case blockMappingValue =>
      refine (meets_valueUnless_fewer _ true .blockMappingKey g₁).mono fun r known => ?_
      simp only [Expected.weight] at known
      omega
    case flowSequenceStart =>
      refine (g₁.openAt token.start).meets_flowSequenceItem_fewer.mono fun r known => ?_
      rw [potential_openAt] at known
      omega
    case flowSequenceEntry => exact g₁.meets_flowSequenceEntry_fewer.mono fun r known => by omega
    case flowPairKey =>
      refine (meets_nodeUnless_fewer _ false false .flowPairValue token g₁).mono fun r known => ?_
      simp only [Expected.weight] at known
      omega
    case flowPairValue =>
      refine (meets_valueUnless_fewer _ false .flowPairEnd g₁).mono fun r known => ?_
      simp only [Expected.weight] at known
      omega
    case flowPairEnd =>
      show (g₁.expect .flowSequenceEntry).potential < _
      simp only [potential_expect, Expected.weight]
      omega
    case flowMappingStart =>
      refine (g₁.openAt token.start).meets_flowMappingItem_fewer.mono fun r known => ?_
      rw [potential_openAt] at known
      omega
    case flowMappingKey => exact g₁.meets_flowMappingKey_fewer.mono fun r known => by omega
    case flowMappingValue =>
      refine (meets_valueUnless_fewer _ false .flowMappingKey g₁).mono fun r known => ?_
      simp only [Expected.weight] at known
      omega
    case flowMappingNoValue =>
      show (g₁.expect .flowMappingKey).potential < _
      simp only [potential_expect, Expected.weight]
      omega

/-- Whether the grammar goes on to the end, and the events that come of it. -/
inductive Makes : Grammar → List Event → Prop
  | ended {g : Grammar} (nothing : g.step = .error .noToken) : Makes g []
  | more {g g' : Grammar} {event : Event} {events : List Event} (next : g.step = .ok (event, g')) (rest : Makes g' events) :
      Makes g (event :: events)

/-- With more steps than events can follow, a run that meets no failure goes to the end. -/
theorem run_eq_iff {steps : Nat} (enough : g.potential < steps) {events : List Event} :
    run none steps g = ⟨events, none⟩ ↔ Makes g events := by
  constructor
  · intro ended
    -- each step is paid for by what it takes off the potential
    induction steps generalizing g events with
    | zero => omega
    | succ steps ih =>
      rw [run] at ended
      cases next : g.step with
      | error halt =>
        rw [next] at ended
        cases halt with
        | noToken =>
          cases ended
          exact .ended next
        | fault failure => cases ended
      | ok taken =>
        obtain ⟨event, g'⟩ := taken
        have fewer : g'.potential < g.potential := g.meets_step_fewer.of_ok next
        rw [next] at ended
        dsimp only at ended
        cases later : run none steps g' with
        | mk items failure =>
          rw [later] at ended
          cases ended
          exact .more next (ih (by omega) later)
  · intro makes
    induction makes generalizing steps with
    | ended nothing =>
      obtain ⟨steps, rfl⟩ := Nat.exists_eq_succ_of_ne_zero (Nat.ne_zero_of_lt enough)
      rw [run, nothing]
    | @more g g' event events next rest ih =>
      obtain ⟨steps, rfl⟩ := Nat.exists_eq_succ_of_ne_zero (Nat.ne_zero_of_lt enough)
      have fewer := g.meets_step_fewer.of_ok next
      rw [run, next]
      dsimp only at fewer ⊢
      rw [ih (by omega)]

end Grammar

end AccessPolicy.Yaml
