import AccessPolicy.Proofs.Value.Sorting

namespace AccessPolicy.Value

/-- Whether all entries have keys with different texts. -/
def HasDistinctTexts (entries : List (Value × Value)) : Prop := (entries.map fun e => e.1.plain).Nodup

mutual
/-- Freezing keeps two pieces of data apart: where both have sequences or maps these are of one kind, the keys of a map
have different texts, and keys of both maps have one text exactly if they are the same. -/
def Commensurable : Value → Value → Prop
  | list xs, list ys | tuple xs, tuple ys => AllCommensurable xs ys
  | set xs, set ys => areMembers xs = true ∧ areMembers ys = true
  | map es, map fs =>
    HasDistinctTexts es ∧ HasDistinctTexts fs ∧
      (∀ e ∈ es, ∀ f ∈ fs, same e.1 f.1 = true ↔ e.1.plain = f.1.plain) ∧ EntriesCommensurable fs es
  | list _, tuple _ | list _, map _ | tuple _, list _ | tuple _, map _ | map _, list _ | map _, tuple _ => False
  | _, _ => True

/-- Two lists are commensurable item by item, as far as both go. -/
def AllCommensurable : List Value → List Value → Prop
  | x :: xs, y :: ys => Commensurable x y ∧ AllCommensurable xs ys
  | _, _ => True

/-- The values that the second list has under a key of the first are commensurable. -/
def EntriesCommensurable (fs : List (Value × Value)) : List (Value × Value) → Prop
  | [] => True
  | (k, v) :: es => (∀ f ∈ fs, same k f.1 = true → Commensurable v f.2) ∧ EntriesCommensurable fs es
end

theorem enter_none_bind {α : Type} (f : Option Nat → Except FreezeFault α) : (do f (← enter none)) = f none := rfl

theorem freeze_of_atom {v : Value} {i : AtomIdentity} (atom : v.identity? = some i) : v.freeze = .ok v := by
  cases v with
  | list | tuple | set | map => cases atom
  | _ =>
    simp only [freeze]
    rfl

theorem freezeAll_eq_ok_iff {items frozen : List Value} {calls : Option Nat} :
    freezeAll items calls = .ok frozen ↔ List.Forall₂ (fun v a => v.freeze calls = .ok a) items frozen := by
  induction items generalizing frozen with
  | nil => simp [freezeAll, eq_comm]
  | cons v rest ih =>
    rw [freezeAll, List.forall₂_cons_left_iff]
    cases first : v.freeze calls with
    | error fault => simp [bind, Except.bind]
    | ok a =>
      cases others : freezeAll rest calls with
      | error fault => simp [bind, Except.bind, ← ih, others]
      | ok as => simpa [bind, Except.bind, pure, Except.pure, ← ih, others] using eq_comm

theorem freezeEntries_eq_ok_iff {entries : List (Value × Value)} {frozen : List (String × Value)}
    {calls : Option Nat} : freezeEntries entries calls = .ok frozen ↔
      List.Forall₂ (fun e a => keyText e.1 = .ok a.1 ∧ e.2.freeze calls = .ok a.2) entries frozen := by
  induction entries generalizing frozen with
  | nil => simp [freezeEntries, eq_comm]
  | cons e rest ih =>
    obtain ⟨k, v⟩ := e
    rw [freezeEntries, List.forall₂_cons_left_iff]
    cases key : keyText k with
    | error fault => simp [bind, Except.bind]
    | ok t =>
      cases first : v.freeze calls with
      | error fault => simp [bind, Except.bind]
      | ok a =>
        cases others : freezeEntries rest calls with
        | error fault => simp [bind, Except.bind, ← ih, others]
        | ok as =>
          simp only [bind, Except.bind, pure, Except.pure, ← ih, others]
          grind

theorem freeze_of_isMember {v : Value} (member : v.isMember = true) : v.freeze = .ok v := by
  induction v using byParts with
  | atom v i atom => exact freeze_of_atom atom
  | tuple items ih =>
    simp only [isMember, areMembers_iff] at member
    have all : freezeAll items = .ok items :=
      freezeAll_eq_ok_iff.mpr (List.forall₂_same.mpr fun v inItems => ih v inItems (member v inItems))
    rw [freeze, enter_none_bind, all]
    rfl
  | list | set | map => cases member

theorem freeze_set_of_members {members : List Value} (hold : areMembers members = true) :
    (set members).freeze = .ok (set members) := by
  have all : freezeAll members = .ok members :=
    freezeAll_eq_ok_iff.mpr (List.forall₂_same.mpr fun v inMembers =>
      freeze_of_isMember (areMembers_iff.mp hold v inMembers))
  rw [freeze, enter_none_bind, all]
  rfl

/-- Two lists of entries that are sorted by their keys match in place if the first is covered by the second. -/
theorem forall₂_of_sorted {as bs : List (String × Value)} (sorted : as.Pairwise fun a a' => a.1 < a'.1)
    (sorted' : bs.Pairwise fun b b' => b.1 < b'.1) (length : as.length = bs.length)
    (covered : ∀ a ∈ as, ∃ b ∈ bs, a.1 = b.1 ∧ same a.2 b.2 = true) :
    List.Forall₂ (fun a b => a.1 = b.1 ∧ same a.2 b.2 = true) as bs := by
  have apart : as.Pairwise fun a a' => ∀ b : String × Value,
      a.1 = b.1 ∧ same a.2 b.2 = true → ¬(a'.1 = b.1 ∧ same a'.2 b.2 = true) :=
    sorted.imp fun less b first second => less.ne (first.1.trans second.1.symm)
  obtain ⟨cs, perm, pairs⟩ := exists_perm_forall₂ apart length covered
  have sortedToo : cs.Pairwise fun c c' => c.1 < c'.1 :=
    pairwise_of_forall₂ pairs sorted fun first second less => by rwa [← first.1, ← second.1]
  obtain rfl : cs = bs := perm.eq_of_pairwise (fun b b' _ _ less more => absurd more less.asymm) sortedToo sorted'
  exact pairs

theorem freeze_list_iff {items : List Value} {a : Value} :
    (list items).freeze = .ok a ↔ ∃ frozen, a = tuple frozen ∧ freezeAll items = .ok frozen := by
  rw [freeze, enter_none_bind]
  cases freezeAll items <;> simp [bind, Except.bind, pure, Except.pure, eq_comm]

theorem freeze_tuple_iff {items : List Value} {a : Value} :
    (tuple items).freeze = .ok a ↔ ∃ frozen, a = tuple frozen ∧ freezeAll items = .ok frozen := by
  rw [freeze, enter_none_bind]
  cases freezeAll items <;> simp [bind, Except.bind, pure, Except.pure, eq_comm]

theorem freeze_set_iff {members : List Value} {a : Value} :
    (set members).freeze = .ok a ↔ ∃ frozen, a = set frozen ∧ freezeAll members = .ok frozen := by
  rw [freeze, enter_none_bind]
  cases freezeAll members <;> simp [bind, Except.bind, pure, Except.pure, eq_comm]

theorem freeze_map_iff {entries : List (Value × Value)} {a : Value} :
    (map entries).freeze = .ok a ↔
      ∃ frozen sorted, freezeEntries entries = .ok frozen ∧ sortEntries frozen = some sorted ∧
        a = tuple (sorted.map fun entry => tuple [text entry.1, entry.2]) := by
  rw [freeze, enter_none_bind]
  cases freezeEntries entries with
  | error fault => simp [bind, Except.bind]
  | ok frozen =>
    simp only [bind, Except.bind, freezeMap]
    cases tried : sortEntries frozen with
    | none => simp [tried]
    | some sorted => simpa [tried] using eq_comm

theorem keyText_eq_ok {k : Value} {t : String} (taken : keyText k = .ok t) : k.plain = t := by
  unfold keyText at taken
  split at taken
  · exact Except.ok.inj taken
  · cases taken

/-- Freezing makes neither an atom nor does it lose one. -/
theorem identity_of_freeze {v a : Value} (frozen : v.freeze = .ok a) : a.identity? = v.identity? := by
  cases v with
  | list => obtain ⟨_, rfl, _⟩ := freeze_list_iff.mp frozen; rfl
  | tuple => obtain ⟨_, rfl, _⟩ := freeze_tuple_iff.mp frozen; rfl
  | set => obtain ⟨_, rfl, _⟩ := freeze_set_iff.mp frozen; rfl
  | map => obtain ⟨_, _, _, _, rfl⟩ := freeze_map_iff.mp frozen; rfl
  | _ =>
    simp only [freeze, enter_none_bind, pure, Except.pure, Except.ok.injEq] at frozen
    rw [frozen]

theorem sameAll_frozen_iff {xs ys as bs : List Value}
    (ih : ∀ x ∈ xs, ∀ {y a b}, Commensurable x y → x.freeze = .ok a → y.freeze = .ok b →
      (same a b = true ↔ same x y = true))
    (commensurable : AllCommensurable xs ys) (left : freezeAll xs = .ok as) (right : freezeAll ys = .ok bs) :
    sameAll as bs = sameAll xs ys := by
  rw [freezeAll_eq_ok_iff] at left right
  induction left generalizing ys bs with
  | nil => cases right <;> simp only [sameAll]
  | cons first rest ih' =>
    cases right with
    | nil => simp only [sameAll]
    | cons first' rest' =>
      rw [List.forall_mem_cons] at ih
      rw [AllCommensurable] at commensurable
      rw [sameAll, sameAll, ih' ih.2 commensurable.2 rest',
        Bool.eq_iff_iff.mpr (ih.1 commensurable.1 first first')]

theorem entriesCommensurable_iff {es fs : List (Value × Value)} :
    EntriesCommensurable fs es ↔ ∀ e ∈ es, ∀ f ∈ fs, same e.1 f.1 = true → Commensurable e.2 f.2 := by
  induction es with
  | nil => simp [EntriesCommensurable]
  | cons e es ih =>
    obtain ⟨k, v⟩ := e
    simp [EntriesCommensurable, ih]

theorem commensurable_map_iff {es fs : List (Value × Value)} :
    Commensurable (map es) (map fs) ↔ HasDistinctTexts es ∧ HasDistinctTexts fs ∧
      (∀ e ∈ es, ∀ f ∈ fs, same e.1 f.1 = true ↔ e.1.plain = f.1.plain) ∧
      ∀ e ∈ es, ∀ f ∈ fs, same e.1 f.1 = true → Commensurable e.2 f.2 := by
  rw [Commensurable, entriesCommensurable_iff]

/-- The keys of the frozen entries are the texts of the keys. -/
theorem texts_of_freezeEntries {entries : List (Value × Value)} {frozen : List (String × Value)}
    (taken : freezeEntries entries = .ok frozen) : frozen.map Prod.fst = entries.map fun e => e.1.plain := by
  rw [← List.forall₂_eq_eq_eq, List.forall₂_map_left_iff, List.forall₂_map_right_iff]
  exact ((freezeEntries_eq_ok_iff.mp taken).imp fun e a both => (keyText_eq_ok both.1).symm).flip

theorem nodup_of_freezeEntries {entries : List (Value × Value)} {frozen : List (String × Value)}
    (distinct : HasDistinctTexts entries) (taken : freezeEntries entries = .ok frozen) :
    (frozen.map Prod.fst).Nodup := by
  rwa [texts_of_freezeEntries taken]

/-- The frozen forms of maps whose keys have different texts are the same if each entry of one is found in the other,
in whatever order the entries stand. -/
theorem same_frozen_map_iff {as bs sorted sorted' : List (String × Value)} (distinct : (as.map Prod.fst).Nodup)
    (distinct' : (bs.map Prod.fst).Nodup) (left : sortEntries as = some sorted)
    (right : sortEntries bs = some sorted') :
    same (tuple (sorted.map fun entry => tuple [text entry.1, entry.2]))
        (tuple (sorted'.map fun entry => tuple [text entry.1, entry.2])) = true ↔
      as.length = bs.length ∧ ∀ a ∈ as, ∃ b ∈ bs, a.1 = b.1 ∧ same a.2 b.2 = true := by
  obtain ⟨_, found, perm, increasing⟩ := exists_sorted distinct
  obtain rfl := Option.some.inj (left.symm.trans found)
  obtain ⟨_, found', perm', increasing'⟩ := exists_sorted distinct'
  obtain rfl := Option.some.inj (right.symm.trans found')
  have pairwise : same (tuple (sorted.map fun entry => tuple [text entry.1, entry.2]))
      (tuple (sorted'.map fun entry => tuple [text entry.1, entry.2])) = true ↔
      List.Forall₂ (fun a b : String × Value => a.1 = b.1 ∧ same a.2 b.2 = true) sorted sorted' := by
    simp [same, sameAll_iff, List.forall₂_map_left_iff, List.forall₂_map_right_iff, sameAll, sameAtom]
  rw [pairwise, ← perm.length_eq, ← perm'.length_eq]
  simp only [← perm.mem_iff, ← perm'.mem_iff]
  constructor
  · intro pairs
    exact ⟨pairs.length_eq, fun a member => exists_right_of_mem pairs member⟩
  · rintro ⟨length, covered⟩
    exact forall₂_of_sorted increasing increasing' length covered

/-- Commensurable data is the same exactly if its frozen forms are. -/
theorem same_freeze_iff {v w a b : Value} (commensurable : Commensurable v w) (left : v.freeze = .ok a)
    (right : w.freeze = .ok b) : same a b = true ↔ same v w = true := by
  induction v using byParts generalizing w a b with
  | atom v i atom =>
    obtain rfl : v = a := Except.ok.inj ((freeze_of_atom atom).symm.trans left)
    rw [same_of_atom atom, same_of_atom atom, identity_of_freeze right]
  | list xs ih =>
    obtain ⟨as, rfl, taken⟩ := freeze_list_iff.mp left
    cases w with
    | list ys =>
      obtain ⟨bs, rfl, taken'⟩ := freeze_list_iff.mp right
      rw [Commensurable] at commensurable
      rw [same, same, sameAll_frozen_iff @ih commensurable taken taken']
    | tuple | map => cases commensurable
    | set ys => obtain ⟨bs, rfl, _⟩ := freeze_set_iff.mp right; simp [same, sameAtom, worth?]
    | _ =>
      simp only [freeze, enter_none_bind, pure, Except.pure, Except.ok.injEq] at right
      simp [← right, same, sameAtom, worth?]
  | tuple xs ih =>
    obtain ⟨as, rfl, taken⟩ := freeze_tuple_iff.mp left
    cases w with
    | tuple ys =>
      obtain ⟨bs, rfl, taken'⟩ := freeze_tuple_iff.mp right
      rw [Commensurable] at commensurable
      rw [same, same, sameAll_frozen_iff @ih commensurable taken taken']
    | list | map => cases commensurable
    | set ys => obtain ⟨bs, rfl, _⟩ := freeze_set_iff.mp right; simp [same, sameAtom, worth?]
    | _ =>
      simp only [freeze, enter_none_bind, pure, Except.pure, Except.ok.injEq] at right
      simp [← right, same, sameAtom, worth?]
  | set xs ih =>
    cases w with
    | set ys =>
      rw [Commensurable] at commensurable
      rw [← Except.ok.inj ((freeze_set_of_members commensurable.1).symm.trans left),
        ← Except.ok.inj ((freeze_set_of_members commensurable.2).symm.trans right)]
    | list ys =>
      obtain ⟨as, rfl, _⟩ := freeze_set_iff.mp left
      obtain ⟨bs, rfl, _⟩ := freeze_list_iff.mp right
      simp [same, sameAtom, worth?]
    | tuple ys =>
      obtain ⟨as, rfl, _⟩ := freeze_set_iff.mp left
      obtain ⟨bs, rfl, _⟩ := freeze_tuple_iff.mp right
      simp [same, sameAtom, worth?]
    | map ys =>
      obtain ⟨as, rfl, _⟩ := freeze_set_iff.mp left
      obtain ⟨bs, _, _, _, rfl⟩ := freeze_map_iff.mp right
      simp [same, sameAtom, worth?]
    | _ =>
      obtain ⟨as, rfl, _⟩ := freeze_set_iff.mp left
      simp only [freeze, enter_none_bind, pure, Except.pure, Except.ok.injEq] at right
      simp [← right, same, sameAtom, worth?]
  | map es ih =>
    obtain ⟨as, sorted, taken, sorting, rfl⟩ := freeze_map_iff.mp left
    cases w with
    | map fs =>
      obtain ⟨bs, sorted', taken', sorting', rfl⟩ := freeze_map_iff.mp right
      obtain ⟨distinct, distinct', keys, values⟩ := commensurable_map_iff.mp commensurable
      rw [same_frozen_map_iff (nodup_of_freezeEntries distinct taken) (nodup_of_freezeEntries distinct' taken') sorting
        sorting', same, Bool.and_eq_true, beq_iff_eq, hasEntries_iff]
      rw [freezeEntries_eq_ok_iff] at taken taken'
      rw [taken.length_eq, taken'.length_eq]
      refine and_congr_right fun _ => covered_iff_of_forall₂ taken taken' fun e inEs f inFs {a b} here there => ?_
      rw [← keyText_eq_ok here.1, ← keyText_eq_ok there.1, ← keys e inEs f inFs]
      exact and_congr_right fun alike => (ih e inEs).2 (values e inEs f inFs alike) here.2 there.2
    | list | tuple => cases commensurable
    | set ys => obtain ⟨bs, rfl, _⟩ := freeze_set_iff.mp right; simp [same, sameAtom, worth?]
    | _ =>
      simp only [freeze, enter_none_bind, pure, Except.pure, Except.ok.injEq] at right
      simp [← right, same, sameAtom, worth?]

/-- A map of one entry is frozen as the list of its one pair is: freezing does not tell the two apart. -/
theorem freeze_map_singleton {k v a : Value} {t : String} (key : keyText k = .ok t) (frozen : v.freeze = .ok a) :
    (map [(k, v)]).freeze = (list [list [text t, v]]).freeze := by
  simp [freeze, freezeAll, freezeEntries, enter_none, key, frozen, freezeMap, sortEntries, bind, Except.bind,
    pure, Except.pure]

end AccessPolicy.Value
