import Mathlib.Data.List.Flatten

namespace AccessPolicy

variable {ι κ β γ : Type}

/-- What the first of some checks finds that finds anything. -/
def firstFound (checks : List (ι × Option β)) : Option β := checks.findSome? Prod.snd

theorem firstFound_cons (i : ι) (found : Option β) (rest : List (ι × Option β)) :
    firstFound ((i, found) :: rest) = found.or (firstFound rest) := by
  cases found <;> rfl

theorem firstFound_append (checks more : List (ι × Option β)) :
    firstFound (checks ++ more) = (firstFound checks).or (firstFound more) :=
  List.findSome?_append

theorem firstFound_flatMap (f : γ → List (ι × Option β)) (items : List γ) :
    firstFound (items.flatMap f) = items.findSome? fun item => firstFound (f item) := by
  induction items with
  | nil => rfl
  | cons item rest ih =>
    rw [List.flatMap_cons, firstFound_append, ih, List.findSome?_cons]
    cases firstFound (f item) <;> rfl

theorem findSome?_zipIdx (f : γ → Option β) (items : List γ) (k : Nat) :
    ((items.zipIdx k).findSome? fun item => f item.1) = items.findSome? f := by
  rw [show (fun item : γ × Nat => f item.1) = f ∘ Prod.fst from rfl, ← List.findSome?_map, List.zipIdx_map_fst]

/-- Checks at other places, what they find being told in other words. -/
theorem firstFound_map (place : ι → κ) (tell : β → γ) (checks : List (ι × Option β)) :
    firstFound (checks.map fun check => (place check.1, check.2.map tell)) = (firstFound checks).map tell := by
  induction checks with
  | nil => rfl
  | cons check rest ih =>
    obtain ⟨i, found⟩ := check
    rw [List.map_cons, firstFound_cons, firstFound_cons, ih]
    cases found <;> rfl

theorem firstFound_eq_none_iff {checks : List (ι × Option β)} :
    firstFound checks = none ↔ ∀ i v, (i, some v) ∉ checks := by
  rw [firstFound, List.findSome?_eq_none_iff]
  constructor
  · intro nothing i v member
    cases nothing _ member
  · rintro nothing ⟨i, found⟩ member
    cases found with
    | none => rfl
    | some v => exact absurd member (nothing i v)

/-- What is found is what is wrong at the first place. -/
theorem firstFound_eq_some_iff {before : ι → ι → Prop} (asymm : ∀ i j, before i j → ¬before j i)
    {checks : List (ι × Option β)} (sorted : checks.Pairwise fun a b => before a.1 b.1) {v : β} :
    firstFound checks = some v ↔
      ∃ i, (i, some v) ∈ checks ∧ ∀ j w, before j i → (j, some w) ∉ checks := by
  rw [firstFound, List.findSome?_eq_some_iff]
  constructor
  · rintro ⟨first, ⟨i, found⟩, last, rfl, rfl, nothing⟩
    refine ⟨i, by simp, fun j w earlier member => ?_⟩
    obtain ⟨_, here, _⟩ := List.pairwise_append.mp sorted
    rcases List.mem_append.mp member with inFirst | inRest
    · cases nothing _ inFirst
    · rcases List.mem_cons.mp inRest with same | inLast
      · obtain ⟨rfl, _⟩ := Prod.mk.inj same
        exact asymm j j earlier earlier
      · exact asymm j i earlier ((List.pairwise_cons.mp here).1 _ inLast)
  · rintro ⟨i, member, nothing⟩
    obtain ⟨first, last, rfl⟩ := List.append_of_mem member
    refine ⟨first, (i, some v), last, rfl, rfl, ?_⟩
    rintro ⟨j, found⟩ inFirst
    cases found with
    | none => rfl
    | some w =>
      have earlier := (List.pairwise_append.mp sorted).2.2 _ inFirst _ (List.mem_cons_self ..)
      exact absurd (List.mem_append_left _ inFirst) (nothing j w earlier)

end AccessPolicy
