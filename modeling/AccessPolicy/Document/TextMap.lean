namespace AccessPolicy

/-- Gives a text key a value: in place if the key is there, else at the end. -/
def putText {α : Type} (key : String) (value : α) : List (String × α) → List (String × α)
  | [] => [(key, value)]
  | (k, v) :: rest => if k = key then (k, value) :: rest else (k, v) :: putText key value rest

theorem key_of_mem_putText {α : Type} {key k : String} {value : α} {entries : List (String × α)}
    (member : k ∈ (putText key value entries).map Prod.fst) : k = key ∨ k ∈ entries.map Prod.fst := by
  induction entries with
  | nil => exact Or.inl (by simpa [putText] using member)
  | cons first rest ih =>
    unfold putText at member
    split at member
    · exact Or.inr member
    · rcases List.mem_cons.mp member with here | later
      · exact Or.inr (List.mem_cons.mpr (Or.inl here))
      · rcases ih later with same | inRest
        · exact Or.inl same
        · exact Or.inr (List.mem_cons_of_mem _ inRest)

theorem putText_distinct {α : Type} (key : String) (value : α) {entries : List (String × α)}
    (distinct : (entries.map Prod.fst).Nodup) : ((putText key value entries).map Prod.fst).Nodup := by
  induction entries with
  | nil => simp [putText]
  | cons first rest ih =>
    obtain ⟨k, v⟩ := first
    rw [List.map_cons, List.nodup_cons] at distinct
    unfold putText
    split
    · exact List.nodup_cons.mpr distinct
    · rename_i different
      refine List.nodup_cons.mpr ⟨fun member => ?_, ih distinct.2⟩
      rcases key_of_mem_putText member with same | inRest
      · exact different same
      · exact distinct.1 inRest

/-- A map from texts. -/
structure TextMap (α : Type) where
  entries : List (String × α)
  distinct : (entries.map Prod.fst).Nodup
deriving Repr

namespace TextMap

/-- No entries. -/
def empty {α : Type} : TextMap α := ⟨[], .nil⟩

/-- A map with a value for a key. -/
def put {α : Type} (m : TextMap α) (key : String) (value : α) : TextMap α :=
  ⟨putText key value m.entries, putText_distinct key value m.distinct⟩

end TextMap

end AccessPolicy
