import AccessPolicy.Proofs.Value.Equivalence

namespace AccessPolicy

/-- What data that is no sequence is ordered among. Moments that know universal time and those that do not are ordered
apart. -/
inductive Scale where
  | numbers
  | texts
  | bytes
  | days
  | instants
  | clocks
  | sets
deriving DecidableEq, Repr

/-- The scale that an identity is on. -/
def AtomIdentity.scale? : AtomIdentity → Option Scale
  | null => none
  | text _ => some .texts
  | bytes _ => some .bytes
  | date _ => some .days
  | instant _ => some .instants
  | clock _ => some .clocks
  | number _ => some .numbers

namespace Value

/-- The scale of a number, a text, bytes, a day, a moment or a set. Null and maps are on none, and sequences are ordered
by their items. -/
def scale? : Value → Option Scale
  | bool _ | int _ | float _ => some .numbers
  | text _ => some .texts
  | bytes _ => some .bytes
  | date _ => some .days
  | moment m => some (if m.instant?.isSome then .instants else .clocks)
  | set _ => some .sets
  | null | list _ | tuple _ | map _ => none

/-- Two pieces of data that cannot be sorted: they are not the same, and have no order. -/
def Unordered (v w : Value) : Prop := same v w = false ∧ less? v w = none

instance (v w : Value) : Decidable (v.Unordered w) := inferInstanceAs (Decidable (_ ∧ _))

theorem isSome_worth (v : Value) : v.worth?.isSome = (v.scale? == some .numbers) := by
  cases v with
  | float x => cases x <;> rfl
  | moment m => cases known : m.instant?.isSome <;> simp [worth?, scale?, known]
  | _ => rfl

theorem isSome_momentLess (m n : Moment) : (momentLess? m n).isSome = (m.instant?.isSome == n.instant?.isSome) := by
  unfold momentLess?
  cases m.instant? <;> cases n.instant? <;> rfl

theorem scale_of_worth {v : Value} {w : Worth} (number : v.worth? = some w) : v.scale? = some .numbers := by
  simpa [number] using (isSome_worth v).symm

/-- Data that is no sequence has an order if it is on one scale. -/
theorem isSome_atomLess_iff {v w : Value} :
    (atomLess? v w).isSome = true ↔ ∃ s, v.scale? = some s ∧ w.scale? = some s := by
  cases first : v.worth? with
  | some a =>
    rw [scale_of_worth first]
    have asNumbers : atomLess? v w = w.worth?.map a.less := by
      unfold atomLess?
      split
      all_goals first | cases first | rw [first]
      cases w.worth? <;> rfl
    rw [asNumbers, Option.isSome_map, isSome_worth]
    simp
  | none =>
    cases v with
    | bool | int => cases first
    | float x => cases x <;> cases first
    | moment m =>
      cases w with
      | moment n =>
        simp only [atomLess?, isSome_momentLess, scale?]
        cases m.instant?.isSome <;> cases n.instant?.isSome <;> simp
      | _ => cases known : m.instant?.isSome <;> simp [atomLess?, worth?, scale?, known]
    | _ =>
      cases w with
      | moment n => cases known : n.instant?.isSome <;> simp [atomLess?, worth?, scale?, known]
      | _ => simp [atomLess?, worth?, scale?]

theorem isSome_atomLess_comm (v w : Value) : (atomLess? v w).isSome = (atomLess? w v).isSome := by
  rw [Bool.eq_iff_iff, isSome_atomLess_iff, isSome_atomLess_iff]
  exact exists_congr fun s => and_comm

/-- Data that is no sequence is not ordered as one, with whatever else. -/
theorem less_eq_atomLess {v : Value} (noList : ∀ items, v ≠ list items)
    (noTuple : ∀ items, v ≠ tuple items) (w : Value) :
    less? v w = atomLess? v w ∧ less? w v = atomLess? w v := by
  cases v with
  | list items => exact absurd rfl (noList items)
  | tuple items => exact absurd rfl (noTuple items)
  | _ => cases w <;> simp only [less?, and_self]

theorem same_comm_of_isFirm {v w : Value} (firm : v.IsFirm) (firm' : w.IsFirm) : same v w = same w v :=
  Bool.eq_iff_iff.mpr
    ⟨fun alike => (same_symm_of_isFirm firm alike).2, fun alike => (same_symm_of_isFirm firm' alike).2⟩

/-- Whether firm data has an order does not depend on which comes first. -/
theorem isSome_less_comm {v w : Value} (firm : v.IsFirm) (firm' : w.IsFirm) :
    (less? v w).isSome = (less? w v).isSome := by
  have single {v : Value} (w : Value) (noList : ∀ items, v ≠ list items) (noTuple : ∀ items, v ≠ tuple items) :
      (less? v w).isSome = (less? w v).isSome := by
    rw [(less_eq_atomLess noList noTuple w).1, (less_eq_atomLess noList noTuple w).2, isSome_atomLess_comm]
  induction v using byParts generalizing w with
  | atom v i atom => exact single w (by rintro items rfl; cases atom) (by rintro items rfl; cases atom)
  | set members => exact single w (by simp) (by simp)
  | tuple xs ih =>
    cases w with
    | tuple ys =>
      rw [IsFirm, allFirm_iff] at firm firm'
      rw [less?, less?]
      induction xs generalizing ys with
      | nil => cases ys <;> rfl
      | cons x xs next =>
        cases ys with
        | nil => rfl
        | cons y ys =>
          rw [List.forall_mem_cons] at firm firm' ih
          rw [lessAll?, lessAll?, same_comm_of_isFirm firm.1 firm'.1]
          split
          · exact next ih.2 firm.2 ys firm'.2
          · exact ih.1 firm.1 firm'.1
    | list | map => rw [IsFirm] at firm'; exact firm'.elim
    | _ => exact (single _ (by simp) (by simp)).symm
  | list | map => rw [IsFirm] at firm; exact firm.elim

theorem Unordered.symm {v w : Value} (firm : v.IsFirm) (firm' : w.IsFirm) (unordered : v.Unordered w) :
    w.Unordered v := by
  obtain ⟨differ, none⟩ := unordered
  have noneToo := isSome_less_comm firm' firm
  rw [none] at noneToo
  exact ⟨by rw [same_comm_of_isFirm firm' firm, differ], by simpa using noneToo⟩

/-- Data that is no sequence is unordered with other data if it is not the same and on another scale, or on none. -/
theorem unordered_iff_scale {v : Value} (noList : ∀ items, v ≠ list items) (noTuple : ∀ items, v ≠ tuple items)
    (w : Value) : v.Unordered w ↔ same v w = false ∧ ∀ s, v.scale? = some s → w.scale? ≠ some s := by
  have none : less? v w = Option.none ↔ ¬(atomLess? v w).isSome = true := by
    rw [(less_eq_atomLess noList noTuple w).1, Bool.not_eq_true, Option.isSome_eq_false_iff, Option.isNone_iff_eq_none]
  rw [Unordered, none, isSome_atomLess_iff, not_exists]
  simp only [not_and, ne_eq]

/-- Data is never unordered with itself. -/
theorem not_unordered_self (v : Value) : ¬v.Unordered v := by
  rintro ⟨differ, _⟩
  simp [same_refl v] at differ

theorem scale_of_identity {v : Value} {i : AtomIdentity} (atom : v.identity? = some i) : v.scale? = i.scale? := by
  cases v with
  | bool | int =>
    obtain rfl := Option.some.inj atom
    rfl
  | float x => cases x <;> (obtain rfl := Option.some.inj atom; rfl)
  | moment m =>
    obtain rfl := Option.some.inj atom
    cases known : m.instant? <;> simp [scale?, Moment.identity, known, AtomIdentity.scale?]
  | null | text | bytes | date =>
    obtain rfl := Option.some.inj atom
    rfl
  | list | tuple | set | map => cases atom

theorem scale_of_same {v w : Value} (firm : v.IsFirm) (noTuple : ∀ items, v ≠ tuple items) (alike : same v w = true) :
    w.scale? = v.scale? := by
  induction v using byParts with
  | atom v i atom => rw [scale_of_identity atom, scale_of_identity ((same_of_atom atom).mp alike)]
  | tuple items => exact absurd rfl (noTuple items)
  | set members =>
    cases w with
    | set others => rfl
    | _ => simp [same, sameAtom, worth?] at alike
  | list | map => rw [IsFirm] at firm; exact firm.elim

theorem not_unordered_iff {v : Value} (firm : v.IsFirm) (noTuple : ∀ items, v ≠ tuple items) (w : Value) :
    ¬v.Unordered w ↔ same v w = true ∨ ∃ s, v.scale? = some s ∧ w.scale? = some s := by
  have noList : ∀ items, v ≠ list items := by
    rintro items rfl
    rw [IsFirm] at firm
    exact firm
  rw [unordered_iff_scale noList noTuple, not_and_or, Bool.not_eq_false]
  simp

/-- What is no sequence is ordered among its own alone. -/
theorem not_unordered_trans {v w u : Value} (firm : v.IsFirm) (firm' : w.IsFirm) (noTuple : ∀ items, v ≠ tuple items)
    (noTuple' : ∀ items, w ≠ tuple items) (first : ¬v.Unordered w) (second : ¬w.Unordered u) : ¬v.Unordered u := by
  rw [not_unordered_iff firm noTuple] at first ⊢
  rw [not_unordered_iff firm' noTuple'] at second
  rcases first with alike | ⟨s, scale, scale'⟩ <;> rcases second with alike' | ⟨s', here, there⟩
  · exact Or.inl (same_trans_of_isFirm firm alike alike')
  · exact Or.inr ⟨s', by rw [← scale_of_same firm noTuple alike, here], there⟩
  · exact Or.inr ⟨s, scale, by rw [scale_of_same firm' noTuple' alike', scale']⟩
  · exact Or.inr ⟨s, scale, there.trans (here.symm.trans scale')⟩

/-- Two entries have an order unless their keys are the same and their values unordered. -/
theorem entryLess_eq_none_iff {a b : String × Value} : entryLess? a b = none ↔ a.1 = b.1 ∧ a.2.Unordered b.2 := by
  unfold entryLess?
  by_cases key : a.1 = b.1
  · cases alike : same a.2 b.2 <;> simp [key, alike, Unordered]
  · simp [key]

/-- Entries that cannot be sorted have two among them whose keys are the same and whose values are unordered. -/
theorem exists_unordered_of_sortEntries {entries : List (String × Value)} (failed : sortEntries entries = none) :
    ∃ a ∈ entries, ∃ b ∈ entries, a.1 = b.1 ∧ a.2.Unordered b.2 := by
  obtain ⟨a, member, b, member', none⟩ := exists_incomparable_of_sortEntries failed
  exact ⟨a, member, b, member', entryLess_eq_none_iff.mp none⟩

theorem not_unordered_of_precedes {a b : String × Value} (precedes : Precedes a b) (key : a.1 = b.1) (firm : a.2.IsFirm)
    (firm' : b.2.IsFirm) : ¬a.2.Unordered b.2 := by
  intro unordered
  rcases precedes with compared | compared
  · rw [entryLess_eq_none_iff.mpr ⟨key, unordered⟩] at compared
    cases compared
  · rw [entryLess_eq_none_iff.mpr ⟨key.symm, unordered.symm firm firm'⟩] at compared
    cases compared

/-- The entries that have a key, in their order. -/
def withKey (t : String) (entries : List (String × Value)) : List (String × Value) := entries.filter fun e => e.1 = t

theorem mem_withKey {t : String} {entries : List (String × Value)} {e : String × Value} :
    e ∈ withKey t entries ↔ e ∈ entries ∧ e.1 = t := by
  simp [withKey]

/-- Entries that have one key stand side by side where all are sorted. -/
theorem isChain_withKey {sorted : List (String × Value)} (ordered : sorted.Pairwise KeyLE)
    (chain : sorted.IsChain Precedes) (t : String) : (withKey t sorted).IsChain Precedes := by
  induction sorted with
  | nil => exact .nil
  | cons first rest ih =>
    rw [List.pairwise_cons] at ordered
    rw [List.isChain_cons] at chain
    have later := ih ordered.2 chain.2
    by_cases key : first.1 = t
    · have whole : withKey t (first :: rest) = first :: withKey t rest := by simp [withKey, key]
      rw [whole, List.isChain_cons]
      refine ⟨fun other isNext => ?_, later⟩
      obtain ⟨inRest, otherKey⟩ := mem_withKey.mp (List.mem_of_mem_head? isNext)
      cases rest with
      | nil => cases inRest
      | cons next rest' =>
        have after : next.1 ≤ t := by
          rcases List.mem_cons.mp inRest with rfl | further
          · exact otherKey.le
          · exact ((List.pairwise_cons.mp ordered.2).1 other further).trans_eq otherKey
        have nextKey : next.1 = t := le_antisymm after (key ▸ ordered.1 next (List.mem_cons_self ..))
        obtain rfl : next = other := by simpa [withKey, nextKey] using isNext
        exact chain.1 next rfl
    · have whole : withKey t (first :: rest) = withKey t rest := by simp [withKey, key]
      rwa [whole]

/-- Where no value is a sequence and those of neighbours are ordered, all values are. -/
theorem not_unordered_of_isChain {group : List (String × Value)} (firm : ∀ e ∈ group, e.2.IsFirm)
    (noTuples : ∀ e ∈ group, ∀ items, e.2 ≠ tuple items)
    (chain : group.IsChain fun a b => ¬a.2.Unordered b.2) : ∀ a ∈ group, ∀ b ∈ group, ¬a.2.Unordered b.2 := by
  induction group with
  | nil => simp
  | cons first rest ih =>
    rw [List.forall_mem_cons] at firm noTuples
    rw [List.isChain_cons] at chain
    have among := ih firm.2 noTuples.2 chain.2
    have ahead : ∀ b ∈ rest, ¬first.2.Unordered b.2 := by
      intro b member
      cases rest with
      | nil => cases member
      | cons next rest' =>
        have here : next ∈ next :: rest' := List.mem_cons_self ..
        exact not_unordered_trans firm.1 (firm.2 next here) noTuples.1 (noTuples.2 next here) (chain.1 next rfl)
          (among next here b member)
    have behind : ∀ a ∈ rest, ¬a.2.Unordered first.2 := fun a member unordered =>
      ahead a member (unordered.symm (firm.2 a member) firm.1)
    simp only [List.forall_mem_cons]
    exact ⟨⟨not_unordered_self first.2, ahead⟩, fun a member => ⟨behind a member, among a member⟩⟩

/-- Entries of one key can be sorted only if all their values are ordered, if there are only two or no value is a sequence. Of
three sequences that are not all ordered, two may be kept apart by the third. -/
theorem not_unordered_of_sortEntries {entries sorted : List (String × Value)} {t : String}
    (firm : ∀ e ∈ entries, e.2.IsFirm) (done : sortEntries entries = some sorted)
    (decided : (withKey t entries).length ≤ 2 ∨ ∀ e ∈ withKey t entries, ∀ items, e.2 ≠ tuple items) :
    ∀ a ∈ withKey t entries, ∀ b ∈ withKey t entries, ¬a.2.Unordered b.2 := by
  obtain ⟨perm, chain⟩ := sortEntries_spec done
  have same : (withKey t sorted).Perm (withKey t entries) := perm.filter _
  have firm' : ∀ e ∈ withKey t sorted, e.2.IsFirm := fun e member =>
    firm e (mem_withKey.mp (same.mem_iff.mp member)).1
  have neighbours : (withKey t sorted).IsChain fun a b => ¬a.2.Unordered b.2 := by
    refine (isChain_withKey (pairwise_sortEntries done) chain t).imp_of_mem_imp fun a b member member' precedes => ?_
    have key := (mem_withKey.mp member).2.trans (mem_withKey.mp member').2.symm
    exact not_unordered_of_precedes precedes key (firm' a member) (firm' b member')
  simp only [← same.mem_iff, ← same.length_eq] at decided ⊢
  rcases decided with short | noTuples
  · match withKey t sorted, short, firm', neighbours with
    | [], _, _, _ => simp
    | [a], _, _, _ => simp [not_unordered_self]
    | [a, b], _, firm, neighbours =>
      have ordered : ¬a.2.Unordered b.2 := (List.isChain_cons_cons.mp neighbours).1
      have flipped : ¬b.2.Unordered a.2 := fun unordered =>
        ordered (unordered.symm (firm b (by simp)) (firm a (by simp)))
      simp [not_unordered_self, ordered, flipped]
  · exact not_unordered_of_isChain firm' noTuples neighbours

end Value

end AccessPolicy
