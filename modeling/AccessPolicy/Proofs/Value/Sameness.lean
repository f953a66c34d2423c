import AccessPolicy.Value.Members
import AccessPolicy.Proofs.Trials
import Mathlib.Data.List.Perm.Basic

namespace AccessPolicy

/-- What an atom is the same by: numbers by what they are worth, moments by universal time or by their clocks, and all
else by its content. -/
inductive AtomIdentity where
  | null
  | text (s : String)
  | bytes (b : List UInt8)
  | date (d : Date)
  | instant (t : Int)
  | clock (t : Int)
  | number (w : Worth)
deriving DecidableEq, Repr

/-- The identity of a moment. -/
def Moment.identity (m : Moment) : AtomIdentity :=
  match m.instant? with
  | some t => .instant t
  | none => .clock m.clock

namespace Value

/-- The identity of an atom; collections have none. -/
def identity? : Value → Option AtomIdentity
  | null => some .null
  | text s => some (.text s)
  | bytes b => some (.bytes b)
  | date d => some (.date d)
  | moment m => some m.identity
  | v => v.worth?.map .number

/-- To show something of all data, show it of atoms, and of collections whose parts have it. -/
theorem byParts {P : Value → Prop} (atom : ∀ v i, v.identity? = some i → P v)
    (list : ∀ items, (∀ v ∈ items, P v) → P (list items)) (tuple : ∀ items, (∀ v ∈ items, P v) → P (tuple items))
    (set : ∀ members, (∀ v ∈ members, P v) → P (set members))
    (map : ∀ entries, (∀ e ∈ entries, P e.1 ∧ P e.2) → P (map entries)) (v : Value) : P v :=
  match v with
  | .null => atom _ _ rfl
  | .bool b => atom _ _ rfl
  | .int n => atom _ _ rfl
  | .float (.finite _ _ _) => atom _ _ rfl
  | .float (.infinite _) => atom _ _ rfl
  | .float (.nan _) => atom _ _ rfl
  | .text s => atom _ _ rfl
  | .bytes b => atom _ _ rfl
  | .date d => atom _ _ rfl
  | .moment m => atom _ _ rfl
  | .list items => list items fun v _ => byParts atom list tuple set map v
  | .tuple items => tuple items fun v _ => byParts atom list tuple set map v
  | .set members => set members fun v _ => byParts atom list tuple set map v
  | .map entries => map entries fun e _ => ⟨byParts atom list tuple set map e.1, byParts atom list tuple set map e.2⟩
termination_by v
decreasing_by
  all_goals simp_wf
  · have := List.sizeOf_lt_of_mem ‹v ∈ items›; omega
  · have := List.sizeOf_lt_of_mem ‹v ∈ items›; omega
  · have := List.sizeOf_lt_of_mem ‹v ∈ members›; omega
  · have := List.sizeOf_lt_of_mem ‹e ∈ entries›; cases e; simp at *; omega
  · have := List.sizeOf_lt_of_mem ‹e ∈ entries›; cases e; simp at *; omega

theorem sameMoment_iff {m m' : Moment} : sameMoment m m' = true ↔ m.identity = m'.identity := by
  unfold sameMoment Moment.identity
  cases m.instant? <;> cases m'.instant? <;> simp

/-- The identity of a moment is that of no other atom. -/
theorem identity_of_moment_cases (m : Moment) : ∃ t, m.identity = .instant t ∨ m.identity = .clock t := by
  unfold Moment.identity
  cases m.instant? with
  | some t => exact ⟨t, Or.inl rfl⟩
  | none => exact ⟨m.clock, Or.inr rfl⟩

theorem identity_of_worth {v : Value} {w : Worth} (number : v.worth? = some w) : v.identity? = some (.number w) := by
  cases v with
  | bool | int | float => simp only [identity?, number, Option.map_some]
  | _ => cases number

theorem worth_of_identity {v : Value} {w : Worth} (number : v.identity? = some (.number w)) : v.worth? = some w := by
  cases v with
  | bool | int | float => simpa [identity?] using number
  | moment m => obtain ⟨t, same | same⟩ := identity_of_moment_cases m <;> simp [identity?, same] at number
  | _ => cases number

/-- Where one of two atoms is a number, they are the same if they are worth the same. -/
theorem sameAtom_iff_of_worth {v w : Value} {a : Worth} (number : v.worth? = some a) :
    sameAtom v w = true ↔ w.worth? = some a := by
  unfold sameAtom
  split
  all_goals first | cases number | skip
  rw [number]
  cases w.worth? with
  | none => simp
  | some b => simpa using eq_comm

theorem sameAtom_iff_of_worth_none {v w : Value} (first : v.worth? = none) (second : w.worth? = none) :
    sameAtom v w = true ↔ v.identity? = w.identity? ∧ v.identity? ≠ none := by
  cases v with
  | bool | int => cases first
  | float x => cases x <;> cases first
  | moment m =>
    obtain ⟨t, same | same⟩ := identity_of_moment_cases m <;> cases w with
    | bool | int => cases second
    | float x => cases x <;> cases second
    | moment m' => simp [sameAtom, identity?, sameMoment_iff]
    | _ => simp [sameAtom, identity?, worth?, same]
  | _ =>
    cases w with
    | bool | int => cases second
    | float x => cases x <;> cases second
    | moment m => obtain ⟨t, same | same⟩ := identity_of_moment_cases m <;> simp [sameAtom, identity?, worth?, same]
    | _ => simp [sameAtom, identity?, worth?]

/-- Two atoms are the same exactly if they have one identity. -/
theorem sameAtom_iff {v w : Value} : sameAtom v w = true ↔ ∃ i, v.identity? = some i ∧ w.identity? = some i := by
  cases first : v.worth? with
  | some a =>
    rw [sameAtom_iff_of_worth first, identity_of_worth first]
    exact ⟨fun same => ⟨_, rfl, identity_of_worth same⟩,
      fun ⟨i, left, right⟩ => worth_of_identity (by rw [right, ← left])⟩
  | none =>
    cases second : w.worth? with
    | none =>
      rw [sameAtom_iff_of_worth_none first second, ne_eq, Option.eq_none_iff_forall_ne_some]
      grind
    | some b =>
      have differ : sameAtom v w = false := by
        unfold sameAtom
        split
        all_goals first | cases second | rw [first]
      rw [differ, identity_of_worth second]
      simp only [Bool.false_eq_true, false_iff]
      rintro ⟨i, left, right⟩
      rw [← right] at left
      simp [worth_of_identity left] at first

theorem sameAll_iff {xs ys : List Value} :
    sameAll xs ys = true ↔ List.Forall₂ (fun x y => same x y = true) xs ys := by
  induction xs generalizing ys with
  | nil => cases ys <;> simp [sameAll]
  | cons x xs ih => cases ys <;> simp [sameAll, ih]

theorem containsAll_iff {xs ys : List Value} :
    containsAll ys xs = true ↔ ∀ x ∈ xs, ∃ y ∈ ys, same x y = true := by
  induction xs with
  | nil => simp [containsAll]
  | cons x xs ih => simp [containsAll, ih]

theorem hasEntries_iff {es fs : List (Value × Value)} :
    hasEntries fs es = true ↔ ∀ e ∈ es, ∃ f ∈ fs, same e.1 f.1 = true ∧ same e.2 f.2 = true := by
  induction es with
  | nil => simp [hasEntries]
  | cons e es ih =>
    obtain ⟨k, v⟩ := e
    simp [hasEntries, ih]

theorem areMembers_iff {items : List Value} : areMembers items = true ↔ ∀ v ∈ items, v.isMember = true := by
  induction items with
  | nil => simp [areMembers]
  | cons v rest ih => simp [areMembers, ih]

/-- An atom is compared as one with whatever else. -/
theorem same_of_atom {v w : Value} {i : AtomIdentity} (atom : v.identity? = some i) :
    same v w = true ↔ w.identity? = some i := by
  have asAtom : same v w = sameAtom v w := by
    cases v with
    | list | tuple | set | map => cases atom
    | _ => cases w <;> simp only [same]
  rw [asAtom, sameAtom_iff, atom]
  simp [eq_comm]

theorem same_text (s t : String) : same (text s) (text t) = (s == t) := by
  simp only [same, sameAtom]

theorem same_bool (b c : Bool) : same (bool b) (bool c) = (b == c) := by
  cases b <;> cases c <;> simp [same, sameAtom, worth?]

theorem same_tuple_iff {xs : List Value} {w : Value} :
    same (tuple xs) w = true ↔ ∃ ys, w = tuple ys ∧ List.Forall₂ (fun x y => same x y = true) xs ys := by
  cases w <;> simp [same, sameAtom, worth?, sameAll_iff]

/-- What is the same as a tuple is a tuple. If the items are so in either order, with whatever that tells of the others,
so are the tuples. -/
theorem same_tuple_symm {P : Value → Prop} {items : List Value} {w : Value}
    (each : ∀ x ∈ items, ∀ {y : Value}, same x y = true → P y ∧ same y x = true) (alike : same (tuple items) w = true) :
    ∃ others, w = tuple others ∧ (∀ y ∈ others, P y) ∧ same w (tuple items) = true := by
  obtain ⟨others, rfl, pairs⟩ := same_tuple_iff.mp alike
  have back : List.Forall₂ (fun y x => P y ∧ same y x = true) others items :=
    (((List.forall₂_and_left _ _).mpr ⟨fun x inItems => inItems, pairs⟩).imp
      fun x y (both : x ∈ items ∧ same x y = true) => each x both.1 both.2).flip
  refine ⟨others, rfl, fun y inOthers => ?_, same_tuple_iff.mpr ⟨items, rfl, back.imp fun y x both => both.2⟩⟩
  obtain ⟨x, _, both⟩ := exists_right_of_mem back inOthers
  exact both.1

theorem same_tuple_trans {items : List Value} {w u : Value}
    (each : ∀ x ∈ items, ∀ {y z : Value}, same x y = true → same y z = true → same x z = true)
    (first : same (tuple items) w = true) (second : same w u = true) : same (tuple items) u = true := by
  obtain ⟨others, rfl, pairs⟩ := same_tuple_iff.mp first
  obtain ⟨thirds, rfl, pairs'⟩ := same_tuple_iff.mp second
  refine same_tuple_iff.mpr ⟨thirds, rfl, ?_⟩
  clear first second
  induction pairs generalizing thirds with
  | nil => cases pairs'; exact .nil
  | cons head tail ih =>
    cases pairs' with
    | cons head' tail' =>
      rw [List.forall_mem_cons] at each
      exact .cons (each.1 head head') (ih each.2 _ tail')

/-- Members of sets that are the same are so in either order. -/
theorem same_symm_of_isMember {v w : Value} (member : v.isMember = true) (alike : same v w = true) :
    w.isMember = true ∧ same w v = true := by
  induction v using byParts generalizing w with
  | atom v i atom =>
    have other := (same_of_atom atom).mp alike
    refine ⟨?_, (same_of_atom other).mpr atom⟩
    cases w with
    | list | tuple | set | map => cases other
    | _ => rfl
  | tuple items ih =>
    simp only [isMember, areMembers_iff] at member
    obtain ⟨others, rfl, known, back⟩ := same_tuple_symm (fun x inItems {y} => ih x inItems (member x inItems)) alike
    exact ⟨by simpa only [isMember, areMembers_iff] using known, back⟩
  | list | set | map => cases member

theorem same_trans_of_isMember {v w u : Value} (member : v.isMember = true) (first : same v w = true)
    (second : same w u = true) : same v u = true := by
  induction v using byParts generalizing w u with
  | atom v i atom => exact (same_of_atom atom).mpr ((same_of_atom ((same_of_atom atom).mp first)).mp second)
  | tuple items ih =>
    simp only [isMember, areMembers_iff] at member
    exact same_tuple_trans (fun x inItems {y z} => ih x inItems (member x inItems)) first second
  | list | set | map => cases member

/-- Data is the same as itself. -/
theorem same_refl (v : Value) : same v v = true := by
  induction v using byParts with
  | atom v i atom => exact (same_of_atom atom).mpr atom
  | list items ih =>
    rw [same, sameAll_iff]
    exact List.forall₂_same.mpr ih
  | tuple items ih => exact same_tuple_iff.mpr ⟨items, rfl, List.forall₂_same.mpr ih⟩
  | set members ih =>
    simp only [same, BEq.rfl, Bool.true_and, containsAll_iff]
    exact fun v inMembers => ⟨v, inMembers, ih v inMembers⟩
  | map entries ih =>
    simp only [same, BEq.rfl, Bool.true_and, hasEntries_iff]
    exact fun e inEntries => ⟨e, inEntries, ih e inEntries⟩

/-- Sets that are the same match each other member by member, if the members of the first can be told apart. -/
theorem same_set_iff_of_members {xs : List Value} {w : Value} (members : areMembers xs = true)
    (apart : xs.Pairwise fun x y => same x y = false) :
    same (set xs) w = true ↔
      ∃ ys zs, w = set ys ∧ zs.Perm ys ∧ List.Forall₂ (fun x y => same x y = true) xs zs := by
  have told : xs.Pairwise fun x x' => ∀ y, same x y = true → ¬same x' y = true := by
    refine apart.imp_of_mem fun {x x'} inXs inXs' different y first second => ?_
    have back := (same_symm_of_isMember (areMembers_iff.mp members x' inXs') second).2
    simp [same_trans_of_isMember (areMembers_iff.mp members x inXs) first back] at different
  cases w with
  | set ys =>
    simp only [same, Bool.and_eq_true, beq_iff_eq, containsAll_iff, set.injEq]
    constructor
    · rintro ⟨length, covered⟩
      obtain ⟨zs, perm, pairs⟩ := exists_perm_forall₂ told length covered
      exact ⟨ys, zs, rfl, perm, pairs⟩
    · rintro ⟨_, zs, rfl, perm, pairs⟩
      refine ⟨pairs.length_eq.trans perm.length_eq, fun x inXs => ?_⟩
      obtain ⟨y, inZs, alike⟩ := exists_right_of_mem pairs inXs
      exact ⟨y, perm.mem_iff.mp inZs, alike⟩
  | _ => simp [same, sameAtom, worth?]

end Value

end AccessPolicy
