import Mathlib.Data.List.Basic

namespace AccessPolicy

variable {α β ε : Type}

/-- Whether the result of a trial meets one condition, or its failure another. -/
def Meets (right : α → Prop) (wrong : ε → Prop) : Except ε α → Prop
  | .ok x => right x
  | .error fault => wrong fault

section Meets

variable {P P' : α → Prop} {Q : β → Prop} {E E' : ε → Prop} {trial : Except ε α}

theorem meets_pure {x : α} (holds : P x) : Meets P E (pure x : Except ε α) := holds

theorem meets_any : Meets (fun _ => True) (fun _ => True) trial := by cases trial <;> trivial

theorem Meets.mono (meets : Meets P E trial) (implies : ∀ x, P x → P' x) : Meets P' E trial := by
  cases trial with
  | ok x => exact implies x meets
  | error fault => exact meets

theorem Meets.mono_fault (meets : Meets P E trial) (implies : ∀ fault, E fault → E' fault) : Meets P E' trial := by
  cases trial with
  | ok x => exact meets
  | error fault => exact implies fault meets

/-- Of the result of a trial it is known that the trial gives it. -/
theorem Meets.known (meets : Meets P E trial) : Meets (fun x => trial = .ok x) E trial := by
  cases trial with
  | ok x => exact rfl
  | error fault => exact meets

theorem Meets.bind {next : α → Except ε β} (first : Meets P E trial) (rest : ∀ x, P x → Meets Q E (next x)) :
    Meets Q E (trial >>= next) := by
  cases trial with
  | ok x => exact rest x first
  | error fault => exact first

theorem Meets.of_ok {x : α} (meets : Meets P E trial) (ended : trial = .ok x) : P x := by
  subst ended
  exact meets

theorem Meets.of_error {fault : ε} (meets : Meets P E trial) (ended : trial = .error fault) : E fault := by
  subst ended
  exact meets

/-- What each step keeps is kept to the end. -/
theorem meets_foldlM {f : β → α → Except ε β} {xs : List α} {y : β} (start : Q y)
    (step : ∀ y x, x ∈ xs → Q y → Meets Q E (f y x)) : Meets Q E (xs.foldlM f y) := by
  induction xs generalizing y with
  | nil => exact start
  | cons x xs ih =>
    rw [List.foldlM_cons]
    refine (step y x List.mem_cons_self start).bind fun next kept => ?_
    exact ih kept fun y x member => step y x (List.mem_cons_of_mem _ member)

theorem meets_mapM {f : α → Except ε β} {xs : List α} (each : ∀ x ∈ xs, Meets Q E (f x)) :
    Meets (fun ys => ∀ y ∈ ys, Q y) E (xs.mapM f) := by
  induction xs with
  | nil =>
    rw [List.mapM_nil]
    exact meets_pure fun y member => absurd member List.not_mem_nil
  | cons x xs ih =>
    rw [List.mapM_cons]
    refine (each x List.mem_cons_self).bind fun y first => ?_
    refine (ih fun x member => each x (List.mem_cons_of_mem _ member)).bind fun ys rest => ?_
    exact meets_pure (List.forall_mem_cons.mpr ⟨first, rest⟩)

end Meets

/-- Whether a second trial gives what the first gives, up to a relation. -/
def Carries {α' : Type} (R : α → α' → Prop) (first : Except ε α) (second : Except ε α') : Prop :=
  ∀ x, first = .ok x → ∃ y, second = .ok y ∧ R x y

section Carries

variable {α' β' : Type} {R R' : α → α' → Prop} {Q : β → β' → Prop} {first : Except ε α} {second : Except ε α'}

theorem carries_ok {x : α} {y : α'} (related : R x y) : Carries R (.ok x : Except ε α) (.ok y) := by
  rintro _ ⟨⟩
  exact ⟨y, rfl, related⟩

theorem carries_error {fault : ε} : Carries R (.error fault) second := fun _ failed => nomatch failed

theorem Carries.mono (carries : Carries R first second) (implies : ∀ x y, R x y → R' x y) : Carries R' first second := by
  intro x given
  obtain ⟨y, given', related⟩ := carries x given
  exact ⟨y, given', implies x y related⟩

theorem Carries.bind {next : α → Except ε β} {next' : α' → Except ε β'} (carries : Carries R first second)
    (rest : ∀ x y, R x y → Carries Q (next x) (next' y)) : Carries Q (first >>= next) (second >>= next') := by
  cases given : first with
  | error fault => exact carries_error
  | ok x =>
    obtain ⟨y, given', related⟩ := carries x given
    rw [given']
    exact rest x y related

/-- Of what is carried over it is known that the trials give it. -/
theorem Carries.known (carries : Carries R first second) :
    Carries (fun x y => R x y ∧ first = .ok x ∧ second = .ok y) first second := by
  intro x given
  obtain ⟨y, given', related⟩ := carries x given
  exact ⟨y, given', related, given, given'⟩

theorem carries_foldlM {S : Type} {f : β → S → Except ε β} {f' : β' → S → Except ε β'} {xs : List S} {y : β} {y' : β'}
    (start : Q y y') (step : ∀ y y' x, x ∈ xs → Q y y' → Carries Q (f y x) (f' y' x)) :
    Carries Q (xs.foldlM f y) (xs.foldlM f' y') := by
  induction xs generalizing y y' with
  | nil => exact carries_ok start
  | cons x xs ih =>
    rw [List.foldlM_cons, List.foldlM_cons]
    refine (step y y' x List.mem_cons_self start).bind fun next next' kept => ?_
    exact ih kept fun y y' x member => step y y' x (List.mem_cons_of_mem _ member)

theorem carries_mapM {S S' : Type} {f : S → Except ε β} {f' : S' → Except ε β'} {xs : List S} {xs' : List S'}
    (each : List.Forall₂ (fun x x' => Carries Q (f x) (f' x')) xs xs') :
    Carries (List.Forall₂ Q) (xs.mapM f) (xs'.mapM f') := by
  induction each with
  | nil => exact carries_ok .nil
  | cons here _ ih =>
    rw [List.mapM_cons, List.mapM_cons]
    exact here.bind fun y y' first => ih.bind fun ys ys' rest => carries_ok (.cons first rest)

end Carries

end AccessPolicy
