import AccessPolicy.Proofs.Conditions
import AccessPolicy.Proofs.Value.Keys
import AccessPolicy.Proofs.Value.Ordering

namespace AccessPolicy.Value

/-- Some data is found in other data: it is that data, or is found in an item, a member or the value of an entry. -/
inductive Holds : Value → Value → Prop
  | self (v : Value) : Holds v v
  | ofList {items : List Value} {v w : Value} (member : v ∈ items) (inside : Holds v w) : Holds (list items) w
  | ofTuple {items : List Value} {v w : Value} (member : v ∈ items) (inside : Holds v w) : Holds (tuple items) w
  | ofSet {members : List Value} {v w : Value} (member : v ∈ members) (inside : Holds v w) : Holds (set members) w
  | ofMap {entries : List (Value × Value)} {e : Value × Value} {w : Value} (member : e ∈ entries)
      (inside : Holds e.2 w) : Holds (map entries) w

/-- What the collections in data are: the members of a set may be members and are pairwise different, and so are the keys of a
map, which are no collections. -/
structure IsWhole (v : Value) : Prop where
  members : ∀ members, v.Holds (set members) → areMembers members = true
  apart : ∀ members, v.Holds (set members) → members.Pairwise fun x y => same x y = false
  keys : ∀ entries, v.Holds (map entries) → ∀ e ∈ entries, e.1.IsKey
  keysApart : ∀ entries, v.Holds (map entries) → entries.Pairwise fun e f => same e.1 f.1 = false

/-- What keeps a map from being frozen: its entries cannot be sorted by the texts of their keys and their frozen values, or
a key cannot be written. How deep data is depends on all that holds it. -/
def HasFault (entries : List (Value × Value)) : FreezeFault → Prop
  | .unordered => ∃ taken, freezeEntries entries = .ok taken ∧ sortEntries taken = none
  | .unwritableKey => ∃ e ∈ entries, e.1.isWritable = false
  | .tooDeep => False

/-- Two entries clash if their keys are written alike and their frozen values have no order. -/
def Clash (e f : Value × Value) : Prop :=
  e.1.plain = f.1.plain ∧ ∃ a b, e.2.freeze = .ok a ∧ f.2.freeze = .ok b ∧ a.Unordered b

/-- Whether data is no sequence and no map. -/
def isUndivided : Value → Bool
  | list _ | tuple _ | map _ => false
  | _ => true

mutual
/-- How many calls are nested in freezing data: one for each collection around its deepest piece, and one for that. -/
def height : Value → Nat
  | list items | tuple items | set items => heights items + 1
  | map entries => entryHeights entries + 1
  | _ => 1

/-- The greatest height of several pieces of data. -/
def heights : List Value → Nat
  | [] => 0
  | v :: vs => max v.height (heights vs)

/-- The greatest height of the values of several entries. -/
def entryHeights : List (Value × Value) → Nat
  | [] => 0
  | (_, v) :: es => max v.height (entryHeights es)
end

/-- Whether data is no deeper than calls may be nested. -/
def Fits (v : Value) (calls : Option Nat) : Prop := ∀ n ∈ calls, v.height ≤ n

theorem Holds.trans {v w u : Value} (first : v.Holds w) (second : w.Holds u) : v.Holds u := by
  induction first with
  | self => exact second
  | ofList member _ ih => exact .ofList member (ih second)
  | ofTuple member _ ih => exact .ofTuple member (ih second)
  | ofSet member _ ih => exact .ofSet member (ih second)
  | ofMap member _ ih => exact .ofMap member (ih second)

theorem IsWhole.of_holds {v w : Value} (whole : v.IsWhole) (holds : v.Holds w) : w.IsWhole :=
  ⟨fun _ inside => whole.members _ (holds.trans inside), fun _ inside => whole.apart _ (holds.trans inside),
    fun _ inside => whole.keys _ (holds.trans inside), fun _ inside => whole.keysApart _ (holds.trans inside)⟩

theorem isWhole_of_atom {v : Value} {i : AtomIdentity} (atom : v.identity? = some i) : v.IsWhole := by
  refine ⟨?_, ?_, ?_, ?_⟩ <;> intro parts holds <;> cases holds <;> cases atom

theorem isWhole_map {entries : List (Value × Value)} (keys : ∀ e ∈ entries, e.1.IsKey)
    (apart : entries.Pairwise fun e f => same e.1 f.1 = false) (values : ∀ e ∈ entries, e.2.IsWhole) :
    (map entries).IsWhole where
  members _ | .ofMap member inside => (values _ member).members _ inside
  apart _ | .ofMap member inside => (values _ member).apart _ inside
  keys _ | .self _ => keys | .ofMap member inside => (values _ member).keys _ inside
  keysApart _ | .self _ => apart | .ofMap member inside => (values _ member).keysApart _ inside

theorem isWhole_list {items : List Value} (each : ∀ v ∈ items, v.IsWhole) : (list items).IsWhole where
  members _ | .ofList member inside => (each _ member).members _ inside
  apart _ | .ofList member inside => (each _ member).apart _ inside
  keys _ | .ofList member inside => (each _ member).keys _ inside
  keysApart _ | .ofList member inside => (each _ member).keysApart _ inside

theorem isWhole_tuple {items : List Value} (each : ∀ v ∈ items, v.IsWhole) : (tuple items).IsWhole where
  members _ | .ofTuple member inside => (each _ member).members _ inside
  apart _ | .ofTuple member inside => (each _ member).apart _ inside
  keys _ | .ofTuple member inside => (each _ member).keys _ inside
  keysApart _ | .ofTuple member inside => (each _ member).keysApart _ inside

theorem exists_identity_of_isKey {v : Value} (key : v.IsKey) : ∃ i, v.identity? = some i := by
  cases v with
  | list | tuple | set | map => exact key.elim
  | float x => cases x <;> exact ⟨_, rfl⟩
  | _ => exact ⟨_, rfl⟩

theorem isWhole_of_isKey {v : Value} (key : v.IsKey) : v.IsWhole := by
  obtain ⟨i, atom⟩ := exists_identity_of_isKey key
  exact isWhole_of_atom atom

/-- A set of what may be keys. -/
theorem isWhole_set {members : List Value} (keys : ∀ v ∈ members, v.IsKey)
    (apart : members.Pairwise fun v w => same v w = false) : (set members).IsWhole where
  members _
    | .self _ => areMembers_iff.mpr fun v member => by
      have key := keys v member
      cases v with
      | list | tuple | set | map => exact key.elim
      | _ => simp only [isMember]
    | .ofSet member inside => (isWhole_of_isKey (keys _ member)).members _ inside
  apart _ | .self _ => apart | .ofSet member inside => (isWhole_of_isKey (keys _ member)).apart _ inside
  keys _ | .ofSet member inside => (isWhole_of_isKey (keys _ member)).keys _ inside
  keysApart _ | .ofSet member inside => (isWhole_of_isKey (keys _ member)).keysApart _ inside

/-- Whole data is sound. -/
theorem isSound_of_isWhole {v : Value} (whole : v.IsWhole) : v.IsSound := by
  induction v using byParts with
  | atom v i atom =>
    cases v with
    | list | tuple | set | map => cases atom
    | _ => simp [IsSound]
  | list items ih =>
    rw [IsSound, allSound_iff]
    exact fun v member => ih v member (whole.of_holds (.ofList member (.self v)))
  | tuple items ih =>
    rw [IsSound, allSound_iff]
    exact fun v member => ih v member (whole.of_holds (.ofTuple member (.self v)))
  | set members =>
    rw [IsSound]
    exact ⟨whole.members members (.self _), whole.apart members (.self _)⟩
  | map entries ih =>
    rw [IsSound, entriesSound_iff]
    exact fun e member => (ih e member).2 (whole.of_holds (.ofMap member (.self e.2)))

theorem freeze_of_isUndivided {v : Value} (whole : v.IsWhole) (undivided : v.isUndivided = true) : v.freeze = .ok v := by
  induction v using byParts with
  | atom v i atom => exact freeze_of_atom atom
  | set members => exact freeze_set_of_members (whole.members members (.self _))
  | list | tuple | map => cases undivided

/-- All that is found in data that can be frozen can be frozen. -/
theorem Holds.exists_freeze {v w a : Value} (holds : v.Holds w) (frozen : v.freeze = .ok a) :
    ∃ b, w.freeze = .ok b := by
  induction holds generalizing a with
  | self => exact ⟨a, frozen⟩
  | ofList member _ ih =>
    obtain ⟨_, _, taken⟩ := freeze_list_iff.mp frozen
    obtain ⟨_, _, here⟩ := exists_right_of_mem (freezeAll_eq_ok_iff.mp taken) member
    exact ih here
  | ofTuple member _ ih =>
    obtain ⟨_, _, taken⟩ := freeze_tuple_iff.mp frozen
    obtain ⟨_, _, here⟩ := exists_right_of_mem (freezeAll_eq_ok_iff.mp taken) member
    exact ih here
  | ofSet member _ ih =>
    obtain ⟨_, _, taken⟩ := freeze_set_iff.mp frozen
    obtain ⟨_, _, here⟩ := exists_right_of_mem (freezeAll_eq_ok_iff.mp taken) member
    exact ih here
  | ofMap member _ ih =>
    obtain ⟨_, _, taken, _⟩ := freeze_map_iff.mp frozen
    obtain ⟨_, _, _, here⟩ := exists_right_of_mem (freezeEntries_eq_ok_iff.mp taken) member
    exact ih here

/-- The frozen values of a whole map are firm. -/
theorem IsWhole.isFirm_of_freeze {entries : List (Value × Value)} {e : Value × Value} {a : Value}
    (whole : (map entries).IsWhole) (member : e ∈ entries) (frozen : e.2.freeze = .ok a) : a.IsFirm :=
  Value.isFirm_of_freeze (isSound_of_isWhole (whole.of_holds (.ofMap member (.self e.2)))) frozen

theorem heights_le_iff {items : List Value} {n : Nat} : heights items ≤ n ↔ ∀ v ∈ items, v.height ≤ n := by
  induction items with
  | nil => simp [heights]
  | cons v rest ih => simp [heights, ih]

theorem entryHeights_le_iff {entries : List (Value × Value)} {n : Nat} :
    entryHeights entries ≤ n ↔ ∀ e ∈ entries, e.2.height ≤ n := by
  induction entries with
  | nil => simp [entryHeights]
  | cons e rest ih =>
    obtain ⟨k, v⟩ := e
    simp [entryHeights, ih]

theorem one_le_height (v : Value) : 1 ≤ v.height := by
  cases v <;> simp [height]

/-- A collection fits if its parts fit in the calls that are left inside of it. -/
theorem fits_iff_of_enter {v : Value} {calls left : Option Nat} (entered : enter calls = .ok left) :
    v.Fits calls ↔ ∀ n ∈ left, v.height ≤ n + 1 := by
  unfold enter at entered
  split at entered
  · obtain rfl := Except.ok.inj entered
    simp [Fits]
  · cases entered
  · obtain rfl := Except.ok.inj entered
    simp [Fits]

theorem meets_enter (v : Value) (calls : Option Nat) :
    Meets (fun left => enter calls = .ok left) (fun fault => fault = .tooDeep ∧ ¬v.Fits calls) (enter calls) := by
  unfold enter
  split
  · exact rfl
  · exact ⟨rfl, fun fits => Nat.not_succ_le_zero 0 ((one_le_height v).trans (fits 0 rfl))⟩
  · exact rfl

theorem freezeEntries_filter {entries : List (Value × Value)} {taken : List (String × Value)} {calls : Option Nat}
    (all : freezeEntries entries calls = .ok taken) (t : String) :
    freezeEntries (entries.filter fun e => e.1.plain = t) calls = .ok (withKey t taken) := by
  rw [freezeEntries_eq_ok_iff] at all ⊢
  induction all with
  | nil => exact .nil
  | cons first _ ih =>
    rename_i e a _ _ _
    have text : e.1.plain = a.1 := keyText_eq_ok first.1
    by_cases key : a.1 = t
    · simpa [withKey, text, key] using And.intro first ih
    · simpa [withKey, text, key] using ih

/-- A map that can be frozen has no fault. -/
theorem not_hasFault_of_freeze {entries : List (Value × Value)} {a : Value} (frozen : (map entries).freeze = .ok a)
    (fault : FreezeFault) : ¬HasFault entries fault := by
  obtain ⟨taken, sorted, all, sorting, _⟩ := freeze_map_iff.mp frozen
  cases fault with
  | unwritableKey =>
    rintro ⟨e, member, unwritable⟩
    obtain ⟨_, _, key, _⟩ := exists_right_of_mem (freezeEntries_eq_ok_iff.mp all) member
    simp [keyText, unwritable] at key
  | unordered =>
    rintro ⟨_, again, unsorted⟩
    rw [← Except.ok.inj (all.symm.trans again), sorting] at unsorted
    cases unsorted
  | tooDeep => exact id

section Faults

variable {E : FreezeFault → Prop} {R : Value → Prop} {calls : Option Nat}

theorem meets_freezeAll {items : List Value} (each : ∀ v ∈ items, Meets (fun _ => R v) E (v.freeze calls)) :
    Meets (fun _ => ∀ v ∈ items, R v) E (freezeAll items calls) := by
  induction items with
  | nil =>
    rw [freezeAll]
    exact fun _ none => nomatch none
  | cons v rest ih =>
    rw [List.forall_mem_cons] at each
    rw [freezeAll]
    exact each.1.bind fun _ first => (ih each.2).bind fun _ others =>
      meets_pure (List.forall_mem_cons.mpr ⟨first, others⟩)

theorem meets_freezeEntries {entries : List (Value × Value)}
    (keys : ∀ e ∈ entries, Meets (fun _ => True) E (keyText e.1))
    (values : ∀ e ∈ entries, Meets (fun _ => R e.2) E (e.2.freeze calls)) :
    Meets (fun _ => ∀ e ∈ entries, R e.2) E (freezeEntries entries calls) := by
  induction entries with
  | nil =>
    rw [freezeEntries]
    exact fun _ none => nomatch none
  | cons e rest ih =>
    obtain ⟨k, v⟩ := e
    rw [List.forall_mem_cons] at keys values
    rw [freezeEntries]
    exact keys.1.bind fun _ _ => values.1.bind fun _ first => (ih keys.2 values.2).bind fun _ others =>
      meets_pure (List.forall_mem_cons.mpr ⟨first, others⟩)

/-- What is frozen is no deeper than calls may be nested. What is not is deeper, or has a map in it with the fault that is
reported. -/
def IsSettled (v : Value) (calls : Option Nat) : Prop :=
  Meets (fun _ => v.Fits calls)
    (fun fault => fault = .tooDeep ∧ ¬v.Fits calls ∨ ∃ entries, v.Holds (map entries) ∧ HasFault entries fault)
    (v.freeze calls)

theorem IsSettled.part {v w : Value} {left : Option Nat} (settled : w.IsSettled left) (holds : v.Holds w)
    (inside : v.Fits calls → w.Fits left) :
    Meets (fun _ => w.Fits left)
      (fun fault => fault = .tooDeep ∧ ¬v.Fits calls ∨ ∃ entries, v.Holds (map entries) ∧ HasFault entries fault)
      (w.freeze left) := by
  refine settled.mono_fault ?_
  rintro fault (⟨rfl, deeper⟩ | ⟨entries, found, has⟩)
  · exact Or.inl ⟨rfl, fun fits => deeper (inside fits)⟩
  · exact Or.inr ⟨entries, holds.trans found, has⟩

theorem isSettled_items {v : Value} {items : List Value} (collect : List Value → Value)
    (frozen : v.freeze calls = do return collect (← freezeAll items (← enter calls)))
    (high : v.height = heights items + 1) (holds : ∀ w ∈ items, v.Holds w)
    (ih : ∀ w ∈ items, ∀ left, w.IsSettled left) : v.IsSettled calls := by
  unfold IsSettled
  rw [frozen]
  refine ((meets_enter v calls).mono_fault fun fault deep => Or.inl deep).bind fun left entered => ?_
  have fits := fits_iff_of_enter (v := v) entered
  simp only [high, Nat.succ_le_succ_iff, heights_le_iff] at fits
  refine (meets_freezeAll fun w member => (ih w member left).part (holds w member) fun whole n here =>
    fits.mp whole n here w member).bind fun as each => meets_pure ?_
  exact fits.mpr fun n here w member => each w member n here

/-- Freezing is settled by how deep the data is, and by the maps in it. -/
theorem isSettled (v : Value) (calls : Option Nat) : v.IsSettled calls := by
  induction v using byParts generalizing calls with
  | atom v i atom =>
    have only : v.freeze calls = (enter calls).map fun _ => v := by
      cases v with
      | list | tuple | set | map => cases atom
      | _ =>
        simp only [freeze]
        cases enter calls <;> rfl
    have low : v.height = 1 := by
      cases v with
      | list | tuple | set | map => cases atom
      | _ => simp only [height]
    unfold IsSettled
    rw [only]
    have entering := meets_enter v calls
    cases entered : enter calls with
    | error fault => exact Or.inl (entering.of_error entered)
    | ok left => exact (fits_iff_of_enter entered).mpr fun n _ => low.trans_le (Nat.succ_le_succ n.zero_le)
  | list items ih =>
    exact isSettled_items tuple (by rw [freeze]) (by rw [height]) (fun w member => .ofList member (.self w)) ih
  | tuple items ih =>
    exact isSettled_items tuple (by rw [freeze]) (by rw [height]) (fun w member => .ofTuple member (.self w)) ih
  | set members ih =>
    exact isSettled_items set (by rw [freeze]) (by rw [height]) (fun w member => .ofSet member (.self w)) ih
  | map entries ih =>
    unfold IsSettled
    rw [freeze]
    refine ((meets_enter _ calls).mono_fault fun fault deep => Or.inl deep).bind fun left entered => ?_
    have fits := fits_iff_of_enter (v := map entries) entered
    simp only [height, Nat.succ_le_succ_iff, entryHeights_le_iff] at fits
    have values : Meets (fun _ => ∀ e ∈ entries, e.2.Fits left)
        (fun fault => fault = .tooDeep ∧ ¬(map entries).Fits calls ∨
          ∃ inner, (map entries).Holds (map inner) ∧ HasFault inner fault) (freezeEntries entries left) := by
      refine meets_freezeEntries (R := fun w => w.Fits left) (fun e member => ?_) fun e member =>
        ((ih e member).2 left).part (.ofMap member (.self e.2)) fun whole n here => fits.mp whole n here e member
      unfold keyText
      split
      · exact trivial
      · rename_i unwritable
        exact Or.inr ⟨entries, .self _, e, member, Bool.eq_false_iff.mpr unwritable⟩
    refine values.known.bind fun taken all => ?_
    unfold freezeMap
    split
    · exact fits.mpr fun n here e member => values.of_ok all e member n here
    · rename_i unsorted
      exact Or.inr ⟨entries, .self _, _, freezeEntries_of_calls all, unsorted⟩

end Faults

/-- Data can be frozen exactly if it is no deeper than calls may be nested and no map in it has a fault. -/
theorem exists_freeze_iff {v : Value} {calls : Option Nat} : (∃ a, v.freeze calls = .ok a) ↔
    v.Fits calls ∧ ∀ entries, v.Holds (map entries) → ∀ fault, ¬HasFault entries fault := by
  have settled := v.isSettled calls
  constructor
  · rintro ⟨a, frozen⟩
    refine ⟨settled.of_ok frozen, fun entries holds fault => ?_⟩
    obtain ⟨b, inner⟩ := holds.exists_freeze (freeze_of_calls frozen)
    exact not_hasFault_of_freeze inner fault
  · rintro ⟨fits, none⟩
    cases tried : v.freeze calls with
    | ok a => exact ⟨a, rfl⟩
    | error fault =>
      obtain ⟨_, deeper⟩ | ⟨entries, holds, has⟩ := settled.of_error tried
      · exact absurd fits deeper
      · exact absurd has (none entries holds fault)

/-- Keys that are apart and have one text are a text and another key that has it, or are no numbers. -/
theorem keys_of_plain_eq {v w : Value} (key : v.IsKey) (key' : w.IsKey) (different : v ≠ w)
    (alike : v.plain = w.plain) :
    ((∀ s, v ≠ text s) ∧ (w = text v.plain ∨ v.IsNan ∧ w.IsNan)) ∨ (∀ s, w ≠ text s) ∧ v = text w.plain := by
  by_cases isText : ∃ s, v = text s <;> by_cases isText' : ∃ s, w = text s
  · obtain ⟨s, rfl⟩ := isText
    obtain ⟨t, rfl⟩ := isText'
    exact absurd (congrArg text alike) different
  · obtain ⟨s, rfl⟩ := isText
    exact Or.inr ⟨not_exists.mp isText', congrArg text alike⟩
  · obtain ⟨t, rfl⟩ := isText'
    exact Or.inl ⟨not_exists.mp isText, Or.inl (congrArg text alike.symm)⟩
  · obtain same | nans := eq_or_nan_of_plain_eq key key' (not_exists.mp isText) (not_exists.mp isText') alike
    · exact absurd same different
    · exact Or.inl ⟨not_exists.mp isText, Or.inr nans⟩

theorem nodup_keys {entries : List (Value × Value)} (apart : entries.Pairwise fun e f => same e.1 f.1 = false) :
    (entries.map Prod.fst).Nodup := by
  refine List.pairwise_map.mpr (apart.imp fun {e f} different alike => ?_)
  rw [alike, same_refl] at different
  cases different

/-- Where entries cannot be sorted, two of them clash: one whose key is no text, and one whose key is the text of that or,
where it is no number, another that is none. -/
theorem exists_clash_of_hasFault {entries : List (Value × Value)} (whole : (map entries).IsWhole)
    (has : HasFault entries .unordered) :
    ∃ e ∈ entries, ∃ f ∈ entries, Clash e f ∧ (∀ s, e.1 ≠ text s) ∧ (f.1 = text e.1.plain ∨ e.1.IsNan ∧ f.1.IsNan) := by
  obtain ⟨taken, all, unsorted⟩ := has
  obtain ⟨a, inTaken, b, inTaken', key, unordered⟩ := exists_unordered_of_sortEntries unsorted
  rw [freezeEntries_eq_ok_iff] at all
  obtain ⟨e, member, text, here⟩ := exists_left_of_mem all inTaken
  obtain ⟨f, member', text', there⟩ := exists_left_of_mem all inTaken'
  have alike : e.1.plain = f.1.plain := by rw [keyText_eq_ok text, keyText_eq_ok text', key]
  have different : e.1 ≠ f.1 := by
    intro same
    obtain rfl : e = f := List.inj_on_of_nodup_map (nodup_keys (whole.keysApart entries (.self _))) member member' same
    rw [Except.ok.inj (here.symm.trans there)] at unordered
    exact not_unordered_self b.2 unordered
  have keys := whole.keys entries (.self _)
  obtain ⟨noText, other⟩ | ⟨noText, other⟩ := keys_of_plain_eq (keys e member) (keys f member') different alike
  · exact ⟨e, member, f, member', ⟨alike, _, _, here, there, unordered⟩, noText, other⟩
  · have back := unordered.symm (whole.isFirm_of_freeze member here) (whole.isFirm_of_freeze member' there)
    exact ⟨f, member', e, member, ⟨alike.symm, _, _, there, here, back⟩, noText, Or.inl other⟩

/-- Two entries that clash keep a map from being frozen if no third key is written as theirs are, or if none of the values of
such keys is a sequence or a map. -/
theorem not_freeze_of_clash {entries : List (Value × Value)} (whole : (map entries).IsWhole) {e f : Value × Value}
    (member : e ∈ entries) (member' : f ∈ entries) (clash : Clash e f)
    (decided : (∀ g ∈ entries, g.1.plain = e.1.plain → g = e ∨ g = f) ∨
      ∀ g ∈ entries, g.1.plain = e.1.plain → g.2.isUndivided = true) (c : Value) : (map entries).freeze ≠ .ok c := by
  intro frozen
  obtain ⟨alike, a, b, here, there, unordered⟩ := clash
  obtain ⟨taken, sorted, all, sorting, _⟩ := freeze_map_iff.mp frozen
  have firm : ∀ z ∈ taken, z.2.IsFirm := by
    intro z found
    obtain ⟨g, inEntries, _, value⟩ := exists_left_of_mem (freezeEntries_eq_ok_iff.mp all) found
    exact whole.isFirm_of_freeze inEntries value
  have group := freezeEntries_eq_ok_iff.mp (freezeEntries_filter all e.1.plain)
  have inGroup {g : Value × Value} : g ∈ entries.filter (fun g => g.1.plain = e.1.plain) ↔
      g ∈ entries ∧ g.1.plain = e.1.plain := by simp
  obtain ⟨x, inTaken, _, value⟩ := exists_right_of_mem group (inGroup.mpr ⟨member, rfl⟩)
  obtain ⟨y, inTaken', _, value'⟩ := exists_right_of_mem group (inGroup.mpr ⟨member', alike.symm⟩)
  rw [← Except.ok.inj (value.symm.trans here), ← Except.ok.inj (value'.symm.trans there)] at unordered
  refine not_unordered_of_sortEntries firm sorting ?_ x inTaken y inTaken' unordered
  refine decided.imp (fun pair => ?_) fun scalars z found items isTuple => ?_
  · have apart := (List.Nodup.of_map Prod.fst (nodup_keys (whole.keysApart entries (.self _)))).filter
      fun g => g.1.plain = e.1.plain
    have both : entries.filter (fun g => g.1.plain = e.1.plain) ⊆ [e, f] := fun g found => by
      simpa using pair g (inGroup.mp found).1 (inGroup.mp found).2
    rw [← group.length_eq]
    exact (apart.subperm both).length_le
  · obtain ⟨g, inFilter, _, frozen⟩ := exists_left_of_mem group found
    obtain ⟨inEntries, same⟩ := inGroup.mp inFilter
    have no := scalars g inEntries same
    rw [freeze_of_isUndivided (whole.of_holds (.ofMap inEntries (.self g.2))) no, Except.ok.injEq] at frozen
    rw [frozen, isTuple] at no
    cases no

/-- A map has no fault if its keys can be written, and all of them are texts, or none of them is and at most one is no
number. -/
theorem not_hasFault_of_alike {entries : List (Value × Value)} (whole : (map entries).IsWhole)
    (writable : ∀ e ∈ entries, e.1.isWritable = true)
    (alike : (∀ e ∈ entries, ∃ s, e.1 = text s) ∨
      (∀ e ∈ entries, ∀ s, e.1 ≠ text s) ∧ ∀ e ∈ entries, ∀ f ∈ entries, e.1.IsNan → f.1.IsNan → e = f)
    (fault : FreezeFault) : ¬HasFault entries fault := by
  cases fault with
  | unwritableKey =>
    rintro ⟨e, member, unwritable⟩
    simp [writable e member] at unwritable
  | unordered =>
    intro has
    obtain ⟨e, member, f, member', ⟨_, a, b, here, there, unordered⟩, noText, other⟩ :=
      exists_clash_of_hasFault whole has
    rcases alike with texts | ⟨noTexts, once⟩
    · obtain ⟨s, isText⟩ := texts e member
      exact noText s isText
    · obtain isText | ⟨nan, nan'⟩ := other
      · exact noTexts f member' _ isText
      · obtain rfl := once e member f member' nan nan'
        rw [Except.ok.inj (here.symm.trans there)] at unordered
        exact not_unordered_self b unordered
  | tooDeep => exact id

end AccessPolicy.Value
