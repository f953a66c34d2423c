import AccessPolicy.Collection
import AccessPolicy.Proofs.Policy.Stages
import AccessPolicy.Proofs.Source.Slots

namespace AccessPolicy.Collection

namespace Progress

/-- Nothing yet. -/
def nothing : Progress := ⟨[], .empty⟩

/-- Progress with what is brought in after it. -/
def append (p q : Progress) : Progress := ⟨p.policies ++ q.policies, p.diagnostics.extend q.diagnostics.notes⟩

@[simp] theorem append_nothing (p : Progress) : p.append nothing = p := by
  simp [append, nothing, Diagnostics.empty]

@[simp] theorem append_append (p q r : Progress) : (p.append q).append r = p.append (q.append r) := by
  simp [append, Diagnostics.extend]

variable {pinned : Option (List Attribute)} {source : String}

theorem take_frame (p : Progress) (ordinal index : Nat) (o : Source.Outcome) :
    p.take pinned source ordinal index o =
      (nothing.take pinned source ordinal index o).map fun gain => gain.map p.append := by
  unfold take
  cases o.reception with
  | document d =>
    cases made : Policy.ofDocument d (Source.itemIdentity source index) index pinned with
    | ok policy => simp [made, Except.map, append, nothing, Diagnostics.empty]
    | error fault =>
      cases formal : fault.isFormal <;>
        simp [made, formal, Except.map, append, nothing, Diagnostics.add_some, Diagnostics.extend, Diagnostics.empty]
  | silent => simp [Except.map]
  | told message => simp [Except.map, append, nothing, Diagnostics.add_some, Diagnostics.extend, Diagnostics.empty]
  | stop | abort => rfl

theorem stop_of_take {p : Progress} {ordinal index : Nat} {o : Source.Outcome}
    (last : p.take pinned source ordinal index o = .ok none) : o.reception = .stop := by
  unfold take at last
  cases reception : o.reception with
  | stop => rfl
  | document d =>
    cases made : Policy.ofDocument d (Source.itemIdentity source index) index pinned with
    | ok policy => simp [reception, made] at last
    | error fault => cases formal : fault.isFormal <;> simp [reception, made, formal] at last
  | silent | told | abort => simp [reception] at last

theorem takeFrom_cons (p : Progress) (ordinal index : Nat) (o : Source.Outcome) (rest : List Source.Outcome) :
    p.takeFrom pinned source ordinal index (o :: rest) =
      match p.take pinned source ordinal index o with
      | .error fault => .error fault
      | .ok none => .ok p
      | .ok (some next) => next.takeFrom pinned source (ordinal + 1) (index + 1) rest := by
  rw [takeFrom]
  cases p.take pinned source ordinal index o with
  | error fault => rfl
  | ok next => cases next <;> rfl

/-- What outcomes bring does not depend on what is there before. -/
theorem takeFrom_frame (p : Progress) (ordinal index : Nat) (outcomes : List Source.Outcome) :
    p.takeFrom pinned source ordinal index outcomes =
      (nothing.takeFrom pinned source ordinal index outcomes).map p.append := by
  induction outcomes generalizing p ordinal index with
  | nil => simp [takeFrom, Except.map]
  | cons o rest ih =>
    rw [takeFrom_cons, takeFrom_cons, take_frame]
    cases nothing.take pinned source ordinal index o with
    | error fault => rfl
    | ok gain =>
      cases gain with
      | none => simp [Except.map]
      | some gain =>
        simp only [Except.map, Option.map_some]
        rw [ih (p.append gain), ih gain]
        cases nothing.takeFrom pinned source (ordinal + 1) (index + 1) rest <;> simp [Except.map]

/-- An outcome is taken in behind any messages as it is behind none. -/
theorem take_behind {policies : List Policy} {log : Diagnostics} {next : Progress} {ordinal index : Nat}
    {o : Source.Outcome} (one : take ⟨policies, log⟩ pinned source ordinal index o = .ok (some next)) :
    ∃ notes, next.diagnostics = log.extend notes ∧
      take ⟨policies, .empty⟩ pinned source ordinal index o = .ok (some ⟨next.policies, ⟨notes⟩⟩) := by
  rw [take_frame] at one ⊢
  cases gained : nothing.take pinned source ordinal index o with
  | error fault => simp [gained, Except.map] at one
  | ok gain =>
    cases gain with
    | none => simp [gained, Except.map] at one
    | some gain =>
      obtain rfl : append ⟨policies, log⟩ gain = next := by simpa [gained, Except.map] using one
      exact ⟨gain.diagnostics.notes, rfl, by simp [Except.map, append, Diagnostics.extend, Diagnostics.empty]⟩

theorem take_behind_none {policies : List Policy} {log other : Diagnostics} {ordinal index : Nat} {o : Source.Outcome}
    (last : take ⟨policies, log⟩ pinned source ordinal index o = .ok none) :
    take ⟨policies, other⟩ pinned source ordinal index o = .ok none := by
  rw [take_frame] at last ⊢
  cases gained : nothing.take pinned source ordinal index o with
  | error fault => simp [gained, Except.map] at last
  | ok gain => cases gain <;> simp [gained, Except.map] at last ⊢

/-- Outcomes that are taken in behind some messages are taken in behind none, and record the same. -/
theorem takeFrom_behind {policies : List Policy} {notes : List Note} {total : Progress} {ordinal index : Nat}
    {outcomes : List Source.Outcome}
    (passed : takeFrom ⟨policies, ⟨notes⟩⟩ pinned source ordinal index outcomes = .ok total) :
    ∃ rest, takeFrom ⟨policies, .empty⟩ pinned source ordinal index outcomes = .ok rest ∧
      rest.policies = total.policies ∧ total.diagnostics.notes = notes ++ rest.diagnostics.notes := by
  rw [takeFrom_frame] at passed ⊢
  cases gained : nothing.takeFrom pinned source ordinal index outcomes with
  | error fault => simp [gained, Except.map] at passed
  | ok gain =>
    obtain rfl : append ⟨policies, ⟨notes⟩⟩ gain = total := by simpa [gained, Except.map] using passed
    exact ⟨_, rfl, by simp [append], by simp [append, Diagnostics.extend, Diagnostics.empty]⟩

/-- What a source brings does not depend on what is there before. -/
theorem takeSource_frame (p : Progress) (s : Source) :
    takeSource pinned p s = (takeSource pinned nothing s).map p.append := by
  unfold takeSource
  cases s.outcomes with
  | ok outcomes => exact takeFrom_frame p 1 1 outcomes
  | error fault =>
    cases fault <;> simp [Except.map, append, nothing, Diagnostics.add_some, Diagnostics.extend, Diagnostics.empty]

/-- What several shares come to. -/
def total (shares : List Progress) : Progress :=
  ⟨shares.flatMap policies, ⟨shares.flatMap fun share => share.diagnostics.notes⟩⟩

theorem total_cons (share : Progress) (shares : List Progress) :
    total (share :: shares) = share.append (total shares) := by
  simp [total, append, Diagnostics.extend]

/-- Sources taken in one after another bring what each brings on its own. -/
theorem foldlM_takeSource (p : Progress) (sources : List Source) :
    sources.foldlM (takeSource pinned) p =
      (sources.mapM (takeSource pinned nothing)).map fun shares => p.append (total shares) := by
  induction sources generalizing p with
  | nil => simp [total, append, Diagnostics.extend, pure, Except.pure, Except.map]
  | cons s rest ih =>
    rw [List.foldlM_cons, List.mapM_cons, takeSource_frame]
    cases takeSource pinned nothing s with
    | error fault => rfl
    | ok share =>
      simp only [Except.map, bind, Except.bind]
      rw [ih (p.append share)]
      cases rest.mapM (takeSource pinned nothing) <;> simp [Except.map, pure, Except.pure, total_cons]

end Progress

/-- A collection made in turn is what its sources bring, one after the other, behind what was told before. -/
theorem ofSources_eq (sources : List Source) (pinned : Option (List Attribute)) (prior : Diagnostics) :
    ofSources sources pinned prior =
      (sources.mapM (Progress.takeSource pinned .nothing)).map fun shares =>
        ⟨sources, shares.flatMap Progress.policies, .merge ((shares.flatMap Progress.policies).map Policy.rules),
          prior.extend (shares.flatMap fun share => share.diagnostics.notes)⟩ := by
  unfold ofSources
  rw [Progress.foldlM_takeSource]
  cases sources.mapM (Progress.takeSource pinned .nothing) with
  | error fault => rfl
  | ok shares => simp [Except.map, bind, Except.bind, pure, Except.pure, Progress.append, Progress.total]

end AccessPolicy.Collection
