import Mathlib.Data.List.Forall2

namespace AccessPolicy

variable {α β ε : Type}

theorem mapM_eq_ok_iff {f : α → Except ε β} {xs : List α} {ys : List β} :
    xs.mapM f = .ok ys ↔ List.Forall₂ (fun x y => f x = .ok y) xs ys := by
  induction xs generalizing ys with
  | nil => simp [pure, Except.pure, eq_comm]
  | cons x xs ih =>
    rw [List.mapM_cons, List.forall₂_cons_left_iff]
    cases here : f x with
    | error fault => simp [bind, Except.bind]
    | ok y =>
      cases rest : xs.mapM f with
      | error fault => simp [bind, Except.bind, ← ih, rest]
      | ok ys => simp [bind, Except.bind, pure, Except.pure, ← ih, rest, eq_comm]

theorem mapM_eq_error_iff {f : α → Except ε β} {xs : List α} {fault : ε} :
    xs.mapM f = .error fault ↔
      ∃ before x after, xs = before ++ x :: after ∧ (∀ y ∈ before, ∃ z, f y = .ok z) ∧ f x = .error fault := by
  induction xs with
  | nil => simp [pure, Except.pure]
  | cons x xs ih =>
    rw [List.mapM_cons]
    constructor
    · intro failed
      cases here : f x with
      | error first =>
        obtain rfl : first = fault := by simpa [here, bind, Except.bind] using failed
        exact ⟨[], x, xs, rfl, by simp, here⟩
      | ok y =>
        cases rest : xs.mapM f with
        | ok ys => simp [here, rest, bind, Except.bind, pure, Except.pure] at failed
        | error later =>
          obtain rfl : later = fault := by simpa [here, rest, bind, Except.bind] using failed
          obtain ⟨before, z, after, rfl, passed, stopped⟩ := ih.mp rest
          exact ⟨x :: before, z, after, rfl, List.forall_mem_cons.mpr ⟨⟨y, here⟩, passed⟩, stopped⟩
    · rintro ⟨before, z, after, split, passed, stopped⟩
      cases before with
      | nil =>
        obtain ⟨rfl, rfl⟩ := List.cons.inj split
        simp [stopped, bind, Except.bind]
      | cons first before =>
        obtain ⟨rfl, rfl⟩ := List.cons.inj split
        obtain ⟨⟨y, here⟩, others⟩ := List.forall_mem_cons.mp passed
        have rest := ih.mpr ⟨before, z, after, rfl, others, stopped⟩
        rw [here, rest]
        rfl

theorem exists_mapM_eq_ok {f : α → Except ε β} {xs : List α} (each : ∀ x ∈ xs, ∃ y, f x = .ok y) :
    ∃ ys, xs.mapM f = .ok ys := by
  cases tried : xs.mapM f with
  | ok ys => exact ⟨ys, rfl⟩
  | error fault =>
    obtain ⟨before, x, after, rfl, _, failed⟩ := mapM_eq_error_iff.mp tried
    obtain ⟨y, succeeded⟩ := each x (by simp)
    simp [succeeded] at failed

section Related

variable {R : α → β → Prop} {xs : List α} {ys : List β}

theorem exists_left_of_mem (related : List.Forall₂ R xs ys) {y : β} (member : y ∈ ys) : ∃ x ∈ xs, R x y := by
  induction related with
  | nil => simp at member
  | @cons x' y' _ _ first _ ih =>
    rcases List.mem_cons.mp member with rfl | inRest
    · exact ⟨x', List.mem_cons_self .., first⟩
    · obtain ⟨x, inXs, later⟩ := ih inRest
      exact ⟨x, List.mem_cons_of_mem _ inXs, later⟩

theorem exists_right_of_mem (related : List.Forall₂ R xs ys) {x : α} (member : x ∈ xs) : ∃ y ∈ ys, R x y :=
  exists_left_of_mem related.flip member

/-- Results are covered by others if what they come from is covered by what those come from. -/
theorem covered_iff_of_forall₂ {γ δ : Type} {S : γ → δ → Prop} {zs : List γ} {us : List δ} {P : α → γ → Prop}
    {Q : β → δ → Prop} (related : List.Forall₂ R xs ys) (others : List.Forall₂ S zs us)
    (agree : ∀ x ∈ xs, ∀ z ∈ zs, ∀ {y u}, R x y → S z u → (Q y u ↔ P x z)) :
    (∀ y ∈ ys, ∃ u ∈ us, Q y u) ↔ ∀ x ∈ xs, ∃ z ∈ zs, P x z := by
  constructor
  · intro covered x inXs
    obtain ⟨y, inYs, here⟩ := exists_right_of_mem related inXs
    obtain ⟨u, inUs, holds⟩ := covered y inYs
    obtain ⟨z, inZs, there⟩ := exists_left_of_mem others inUs
    exact ⟨z, inZs, (agree x inXs z inZs here there).mp holds⟩
  · intro covered y inYs
    obtain ⟨x, inXs, here⟩ := exists_left_of_mem related inYs
    obtain ⟨z, inZs, holds⟩ := covered x inXs
    obtain ⟨u, inUs, there⟩ := exists_right_of_mem others inZs
    exact ⟨u, inUs, (agree x inXs z inZs here there).mpr holds⟩

/-- Results are pairwise apart if those of items that are pairwise apart are. -/
theorem pairwise_of_forall₂ {P : α → α → Prop} {Q : β → β → Prop} (related : List.Forall₂ R xs ys)
    (apart : xs.Pairwise P) (keeps : ∀ {x x' y y'}, R x y → R x' y' → P x x' → Q y y') : ys.Pairwise Q := by
  induction related with
  | nil => exact .nil
  | cons first rest ih =>
    rw [List.pairwise_cons] at apart ⊢
    refine ⟨fun y' member => ?_, ih apart.2⟩
    obtain ⟨x', inRest, later⟩ := exists_left_of_mem rest member
    exact keeps first later (apart.1 x' inRest)

/-- If the items of a list can be told apart and are covered by those of another, they match some of these. -/
theorem exists_matched (apart : xs.Pairwise fun x x' => ∀ y, R x y → ¬R x' y)
    (covered : ∀ x ∈ xs, ∃ y ∈ ys, R x y) : ∃ zs rest, (zs ++ rest).Perm ys ∧ List.Forall₂ R xs zs := by
  induction xs generalizing ys with
  | nil => exact ⟨[], ys, .refl _, .nil⟩
  | cons x xs ih =>
    rw [List.pairwise_cons] at apart
    rw [List.forall_mem_cons] at covered
    obtain ⟨⟨y, inYs, related⟩, others⟩ := covered
    obtain ⟨before, after, rfl⟩ := List.append_of_mem inYs
    obtain ⟨zs, rest, perm, pairs⟩ := @ih (before ++ after) apart.2 fun x' inXs => by
      obtain ⟨y', inYs', related'⟩ := others x' inXs
      refine ⟨y', ?_, related'⟩
      simp only [List.mem_append, List.mem_cons] at inYs' ⊢
      rcases inYs' with inBefore | rfl | inAfter
      · exact Or.inl inBefore
      · exact absurd related' (apart.1 x' inXs y' related)
      · exact Or.inr inAfter
    exact ⟨y :: zs, rest, (perm.cons y).trans List.perm_middle.symm, .cons related pairs⟩

/-- If they are as many, they match all. -/
theorem exists_perm_forall₂ (apart : xs.Pairwise fun x x' => ∀ y, R x y → ¬R x' y)
    (length : xs.length = ys.length) (covered : ∀ x ∈ xs, ∃ y ∈ ys, R x y) :
    ∃ zs, zs.Perm ys ∧ List.Forall₂ R xs zs := by
  obtain ⟨zs, rest, perm, pairs⟩ := exists_matched apart covered
  have all := perm.length_eq
  rw [List.length_append, ← pairs.length_eq, length] at all
  obtain rfl : rest = [] := List.length_eq_zero_iff.mp (by omega)
  exact ⟨zs, by simpa using perm, pairs⟩

end Related

theorem mapM_flatMap {γ : Type} {f : α → List γ} {g : γ → Except ε β} (xs : List α) :
    (xs.flatMap f).mapM g = (xs.mapM fun x => (f x).mapM g).map List.flatten := by
  induction xs with
  | nil => rfl
  | cons x xs ih =>
    rw [List.flatMap_cons, List.mapM_append, List.mapM_cons, ih]
    cases (f x).mapM g with
    | error fault => rfl
    | ok ys => cases xs.mapM fun x => (f x).mapM g <;> rfl

theorem mapM_map_result {γ : Type} {f : α → Except ε β} {h : β → γ} (xs : List α) :
    (xs.mapM fun x => (f x).map h) = (xs.mapM f).map (List.map h) := by
  induction xs with
  | nil => rfl
  | cons x xs ih =>
    rw [List.mapM_cons, List.mapM_cons, ih]
    cases f x with
    | error fault => rfl
    | ok y => cases xs.mapM f <;> rfl

/-- What is wrong, if anything is. -/
def fault? : Except ε α → Option ε
  | .ok _ => none
  | .error fault => some fault

/-- Whether the answer is yes. -/
def isYes : Except ε Bool → Bool
  | .ok answer => answer
  | .error _ => false

theorem forM_discard {f : α → Except ε β} (xs : List α) :
    (xs.forM fun x => discard (f x)) = (xs.findSome? fun x => fault? (f x)).elim (.ok ⟨⟩) .error := by
  induction xs with
  | nil => rfl
  | cons x xs ih =>
    cases here : f x with
    | error fault => simp [List.forM, here, discard, fault?, bind, Except.bind, Functor.mapConst, Except.map]
    | ok y => simpa [List.forM, here, discard, fault?, bind, Except.bind, Functor.mapConst, Except.map] using ih

/-- What is asked of each item of a list picks out those with the answer yes, unless something is wrong with one. -/
theorem filterM_eq {f : α → Except ε Bool} (xs : List α) :
    xs.filterM f =
      (xs.findSome? fun x => fault? (f x)).elim (.ok (xs.filter fun x => isYes (f x))) .error := by
  have picked : ∀ before : List α, List.filterAuxM f xs before = (xs.findSome? fun x => fault? (f x)).elim
      (.ok ((xs.filter fun x => isYes (f x)).reverse ++ before)) .error := by
    induction xs with
    | nil => intro before; rfl
    | cons x xs ih =>
      intro before
      cases here : f x with
      | error fault => simp [List.filterAuxM, here, fault?, bind, Except.bind]
      | ok answer =>
        rw [List.filterAuxM, here]
        refine (ih _).trans ?_
        cases answer <;> simp [here, fault?, isYes]
  rw [List.filterM, picked]
  cases xs.findSome? fun x => fault? (f x) with
  | some fault => rfl
  | none => simp [bind, Except.bind, pure, Except.pure]

end AccessPolicy
