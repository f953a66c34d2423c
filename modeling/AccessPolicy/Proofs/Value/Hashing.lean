import AccessPolicy.Proofs.Value.Freezing
import Mathlib.Data.Multiset.Basic
import Mathlib.Data.List.Forall2

namespace AccessPolicy

/-- A way to make hashes: of atoms by what they are the same by, of sequences from the hashes of their items, and of
sets from those of their members, in whatever order these come. -/
structure Hashing (Hash : Type) where
  ofAtom : AtomIdentity → Hash
  ofSequence : List Hash → Hash
  ofMembers : Multiset Hash → Hash

namespace Value

variable {Hash : Type} (h : Hashing Hash)

mutual
/-- The hash of data; lists and maps have none, nor what holds such. -/
def hash? : Value → Option Hash
  | tuple items => (hashAll? items).map h.ofSequence
  | set members => (hashAll? members).map fun hashes => h.ofMembers hashes
  | list _ | map _ => none
  | v => v.identity?.map h.ofAtom

/-- The hashes of several pieces of data. -/
def hashAll? : List Value → Option (List Hash)
  | [] => some []
  | v :: vs => do return (← hash? v) :: (← hashAll? vs)
end

mutual
/-- Whether data can be hashed, and its sets are sets: their members may be members, and are pairwise different. -/
def IsFirm : Value → Prop
  | tuple items => AllFirm items
  | set members => areMembers members = true ∧ members.Pairwise fun v w => same v w = false
  | list _ | map _ => False
  | _ => True

/-- Whether several pieces of data are firm. -/
def AllFirm : List Value → Prop
  | [] => True
  | v :: vs => IsFirm v ∧ AllFirm vs
end

mutual
/-- Whether all sets that are found in data are sets: their members may be members, and are pairwise different. -/
def IsSound : Value → Prop
  | list items | tuple items => AllSound items
  | set members => areMembers members = true ∧ members.Pairwise fun v w => same v w = false
  | map entries => EntriesSound entries
  | _ => True

/-- Whether several pieces of data are sound. -/
def AllSound : List Value → Prop
  | [] => True
  | v :: vs => IsSound v ∧ AllSound vs

/-- Whether the values of several entries are sound. -/
def EntriesSound : List (Value × Value) → Prop
  | [] => True
  | (_, v) :: es => IsSound v ∧ EntriesSound es
end

theorem allFirm_iff {items : List Value} : AllFirm items ↔ ∀ v ∈ items, v.IsFirm := by
  induction items with
  | nil => simp [AllFirm]
  | cons v rest ih => simp [AllFirm, ih]

theorem allSound_iff {items : List Value} : AllSound items ↔ ∀ v ∈ items, v.IsSound := by
  induction items with
  | nil => simp [AllSound]
  | cons v rest ih => simp [AllSound, ih]

theorem entriesSound_iff {entries : List (Value × Value)} :
    EntriesSound entries ↔ ∀ e ∈ entries, e.2.IsSound := by
  induction entries with
  | nil => simp [EntriesSound]
  | cons e rest ih =>
    obtain ⟨k, v⟩ := e
    simp [EntriesSound, ih]

theorem hashAll_eq_some_iff {items : List Value} {hashes : List Hash} :
    hashAll? h items = some hashes ↔ List.Forall₂ (fun v n => v.hash? h = some n) items hashes := by
  induction items generalizing hashes with
  | nil => simp [hashAll?, eq_comm]
  | cons v rest ih =>
    rw [hashAll?, List.forall₂_cons_left_iff]
    cases first : v.hash? h with
    | none => simp
    | some n =>
      cases others : hashAll? h rest with
      | none => simp [← ih, others]
      | some ns => simpa [← ih, others] using eq_comm

theorem hash_of_atom {v : Value} {i : AtomIdentity} (atom : v.identity? = some i) :
    v.hash? h = some (h.ofAtom i) := by
  cases v with
  | list | tuple | set | map => cases atom
  | _ => simp [hash?, atom]

theorem isFirm_of_atom {v : Value} {i : AtomIdentity} (atom : v.identity? = some i) : v.IsFirm := by
  cases v with
  | list | tuple | set | map => cases atom
  | _ => simp [IsFirm]

theorem isFirm_of_isMember {v : Value} (member : v.isMember = true) : v.IsFirm := by
  induction v using byParts with
  | atom v i atom => exact isFirm_of_atom atom
  | tuple items ih =>
    simp only [isMember, areMembers_iff] at member
    rw [IsFirm, allFirm_iff]
    exact fun v inItems => ih v inItems (member v inItems)
  | list | set | map => cases member

/-- Data of which each piece is the same as one of other data, and has its hash, has all of its hashes. -/
theorem exists_hashAll {xs ys : List Value}
    (pairs : List.Forall₂ (fun x y => ∃ n, x.hash? h = some n ∧ y.hash? h = some n) xs ys) :
    ∃ hashes, hashAll? h xs = some hashes ∧ hashAll? h ys = some hashes := by
  induction pairs with
  | nil => exact ⟨[], by simp only [hashAll?], by simp only [hashAll?]⟩
  | cons first _ ih =>
    obtain ⟨n, here, there⟩ := first
    obtain ⟨hashes, all, all'⟩ := ih
    exact ⟨n :: hashes, by simp [hashAll?, here, all], by simp [hashAll?, there, all']⟩

/-- Firm data has a hash, and whatever is the same as it has the same hash. -/
theorem hash_of_same {v w : Value} (firm : v.IsFirm) (alike : same v w = true) :
    ∃ n, v.hash? h = some n ∧ w.hash? h = some n := by
  induction v using byParts generalizing w with
  | atom v i atom => exact ⟨_, hash_of_atom h atom, hash_of_atom h ((same_of_atom atom).mp alike)⟩
  | tuple xs ih =>
    obtain ⟨ys, rfl, pairs⟩ := same_tuple_iff.mp alike
    rw [IsFirm, allFirm_iff] at firm
    have paired := ((List.forall₂_and_left _ _).mpr ⟨fun x inItems => inItems, pairs⟩).imp
      fun x y (both : x ∈ xs ∧ same x y = true) => ih x both.1 (firm x both.1) both.2
    obtain ⟨hashes, left, right⟩ := exists_hashAll h paired
    exact ⟨h.ofSequence hashes, by simp [hash?, left], by simp [hash?, right]⟩
  | set xs ih =>
    rw [IsFirm] at firm
    obtain ⟨members, apart⟩ := firm
    obtain ⟨ys, zs, rfl, perm, pairs⟩ := (same_set_iff_of_members members apart).mp alike
    have paired := ((List.forall₂_and_left _ _).mpr ⟨fun x inItems => inItems, pairs⟩).imp
      fun x y (both : x ∈ xs ∧ same x y = true) =>
        ih x both.1 (isFirm_of_isMember (areMembers_iff.mp members x both.1)) both.2
    obtain ⟨hashes, left, right⟩ := exists_hashAll h paired
    obtain ⟨hashes', right', perm'⟩ : ∃ hashes', hashAll? h ys = some hashes' ∧ hashes'.Perm hashes := by
      obtain ⟨hashes', all, perm'⟩ := List.perm_comp_forall₂ perm.symm ((hashAll_eq_some_iff h).mp right)
      exact ⟨hashes', (hashAll_eq_some_iff h).mpr all, perm'⟩
    exact ⟨h.ofMembers hashes, by simp [hash?, left], by simp [hash?, right', Multiset.coe_eq_coe.mpr perm']⟩
  | list | map => rw [IsFirm] at firm; exact firm.elim

/-- The frozen form of sound data is firm. -/
theorem isFirm_of_freeze {v a : Value} (sound : v.IsSound) (frozen : v.freeze = .ok a) : a.IsFirm := by
  induction v using byParts generalizing a with
  | atom v i atom =>
    rw [← Except.ok.inj ((freeze_of_atom atom).symm.trans frozen)]
    exact isFirm_of_atom atom
  | list items ih =>
    obtain ⟨as, rfl, taken⟩ := freeze_list_iff.mp frozen
    rw [IsSound, allSound_iff] at sound
    rw [IsFirm, allFirm_iff]
    intro a inFrozen
    obtain ⟨v, inItems, here⟩ := exists_left_of_mem (freezeAll_eq_ok_iff.mp taken) inFrozen
    exact ih v inItems (sound v inItems) here
  | tuple items ih =>
    obtain ⟨as, rfl, taken⟩ := freeze_tuple_iff.mp frozen
    rw [IsSound, allSound_iff] at sound
    rw [IsFirm, allFirm_iff]
    intro a inFrozen
    obtain ⟨v, inItems, here⟩ := exists_left_of_mem (freezeAll_eq_ok_iff.mp taken) inFrozen
    exact ih v inItems (sound v inItems) here
  | set members =>
    rw [IsSound] at sound
    rw [← Except.ok.inj ((freeze_set_of_members sound.1).symm.trans frozen), IsFirm]
    exact sound
  | map entries ih =>
    obtain ⟨as, sorted, taken, sorting, rfl⟩ := freeze_map_iff.mp frozen
    rw [IsSound, entriesSound_iff] at sound
    rw [IsFirm, allFirm_iff]
    intro pair inPairs
    obtain ⟨a, inSorted, rfl⟩ := List.mem_map.mp inPairs
    have inFrozen := (sortEntries_spec sorting).1.mem_iff.mp inSorted
    obtain ⟨e, inEntries, _, here⟩ := exists_left_of_mem (freezeEntries_eq_ok_iff.mp taken) inFrozen
    simp only [IsFirm, AllFirm, and_true, true_and]
    exact (ih e inEntries).2 (sound e inEntries) here

end Value

end AccessPolicy
