import AccessPolicy.Proofs.Value.Sameness
import AccessPolicy.Value.Frozen
import Mathlib.Data.List.Chain
import Mathlib.Data.List.Nodup
import Mathlib.Data.String.Basic

namespace AccessPolicy.Value

/-- Whether two entries have been compared, and the first may stand before the second. -/
def Precedes (a b : String × Value) : Prop := entryLess? a b = some true ∨ entryLess? b a = some false

theorem takeRun_cons_iff {falling : Bool} {last next : String × Value} {rest run left : List (String × Value)} :
    takeRun falling last (next :: rest) = some (run, left) ↔
      (∃ further, entryLess? next last = some falling ∧ takeRun falling next rest = some (further, left) ∧
          run = next :: further) ∨
        entryLess? next last = some (!falling) ∧ run = [] ∧ left = next :: rest := by
  rw [takeRun]
  cases entryLess? next last with
  | none => simp
  | some less =>
    obtain rfl | other := eq_or_ne less falling
    · cases takeRun less next rest with
      | none => simp
      | some taken =>
        obtain ⟨further, behind⟩ := taken
        simp [and_comm, eq_comm]
    · simp [Bool.eq_not.mpr other, eq_comm]

/-- A run is the first part of the entries, and each entry of it has been compared with the one before it. -/
theorem takeRun_spec {falling : Bool} {last : String × Value} {entries run left : List (String × Value)}
    (taken : takeRun falling last entries = some (run, left)) :
    run ++ left = entries ∧ (last :: run).IsChain fun a b => entryLess? b a = some falling := by
  induction entries generalizing last run with
  | nil =>
    obtain ⟨rfl, rfl⟩ := Prod.mk.inj (Option.some.inj taken)
    exact ⟨rfl, .singleton last⟩
  | cons next rest ih =>
    obtain ⟨further, compared, others, rfl⟩ | ⟨_, rfl, rfl⟩ := takeRun_cons_iff.mp taken
    · obtain ⟨whole, chain⟩ := ih others
      exact ⟨congrArg (next :: ·) whole, .cons_cons compared chain⟩
    · exact ⟨rfl, .singleton last⟩

theorem exists_incomparable_of_takeRun {falling : Bool} {last : String × Value} {entries : List (String × Value)}
    (failed : takeRun falling last entries = none) :
    ∃ a ∈ last :: entries, ∃ b ∈ last :: entries, entryLess? a b = none := by
  induction entries generalizing last with
  | nil => cases failed
  | cons next rest ih =>
    rw [takeRun] at failed
    cases compared : entryLess? next last with
    | none => exact ⟨next, by simp, last, by simp, compared⟩
    | some less =>
      obtain rfl | other := eq_or_ne less falling
      · have further : takeRun less next rest = none := by
          cases tried : takeRun less next rest <;> simp [compared, tried] at failed ⊢
        obtain ⟨a, member, b, member', none⟩ := ih further
        exact ⟨a, List.mem_cons_of_mem _ member, b, List.mem_cons_of_mem _ member', none⟩
      · simp [compared, other] at failed

/-- An entry is put between two that it has been compared with, unless it is put at an end. -/
theorem insertSorted_spec {entry : String × Value} {entries sorted : List (String × Value)}
    (done : insertSorted entry entries = some sorted) :
    ∃ before behind, entries = before ++ behind ∧ sorted = before ++ entry :: behind ∧
      (∀ other ∈ before.getLast?, entryLess? entry other = some false) ∧
      ∀ other ∈ behind.head?, entryLess? entry other = some true := by
  fun_induction insertSorted entry entries generalizing sorted with
  | case1 entries middle =>
    have length := List.drop_eq_nil_iff.mp middle
    obtain rfl : entries = [] := List.length_eq_zero_iff.mp (by omega)
    exact ⟨[], [], rfl, (Option.some.inj done).symm, by simp, by simp⟩
  | case2 entries other behind middle before left =>
    rename_i right
    have whole : entries = before ++ other :: behind := by rw [← middle, List.take_append_drop]
    cases compared : entryLess? entry other with
    | none => simp [compared] at done
    | some less =>
      cases less with
      | true =>
        obtain ⟨inserted, tried, rfl⟩ : ∃ inserted, insertSorted entry before = some inserted ∧
            inserted ++ other :: behind = sorted := by simpa [compared, Option.bind_eq_some_iff] using done
        obtain ⟨xs, ys, split, rfl, last, first⟩ := left tried
        refine ⟨xs, ys ++ other :: behind, by rw [whole, split, List.append_assoc], by simp, last, fun x member => ?_⟩
        cases ys with
        | nil => exact Option.some.inj member ▸ compared
        | cons y ys => exact first x member
      | false =>
        obtain ⟨inserted, tried, rfl⟩ : ∃ inserted, insertSorted entry behind = some inserted ∧
            before ++ other :: inserted = sorted := by simpa [compared, Option.bind_eq_some_iff] using done
        obtain ⟨xs, ys, split, rfl, last, first⟩ := right tried
        refine ⟨before ++ other :: xs, ys, by rw [whole, split]; simp, by simp, fun x member => ?_, first⟩
        rw [List.getLast?_append, List.getLast?_cons] at member
        cases final : xs.getLast? with
        | none =>
          obtain rfl : other = x := by simpa [final] using member
          exact compared
        | some y =>
          obtain rfl : y = x := by simpa [final] using member
          exact last y final

theorem exists_incomparable_of_insertSorted {entry : String × Value} {entries : List (String × Value)}
    (failed : insertSorted entry entries = none) : ∃ other ∈ entries, entryLess? entry other = none := by
  fun_induction insertSorted entry entries with
  | case1 => cases failed
  | case2 entries other behind middle before left right =>
    have whole : entries = before ++ other :: behind := by rw [← middle, List.take_append_drop]
    cases compared : entryLess? entry other with
    | none => exact ⟨other, by simp [whole], compared⟩
    | some less =>
      cases less with
      | true =>
        have unplaced : insertSorted entry before = none := by
          cases tried : insertSorted entry before <;> simp [compared, tried] at failed ⊢
        obtain ⟨x, member, none⟩ := left unplaced
        exact ⟨x, by simp [whole, member], none⟩
      | false =>
        have unplaced : insertSorted entry behind = none := by
          cases tried : insertSorted entry behind <;> simp [compared, tried] at failed ⊢
        obtain ⟨x, member, none⟩ := right unplaced
        exact ⟨x, by simp [whole, member], none⟩

/-- Entries that are put among others one after another. -/
theorem insertions_spec {left start sorted : List (String × Value)}
    (done : left.foldlM (fun sorted entry => insertSorted entry sorted) start = some sorted)
    (chain : start.IsChain Precedes) : sorted.Perm (start ++ left) ∧ sorted.IsChain Precedes := by
  induction left generalizing start with
  | nil =>
    obtain rfl := Option.some.inj done
    exact ⟨by simp, chain⟩
  | cons entry rest ih =>
    rw [List.foldlM_cons, Option.bind_eq_bind, Option.bind_eq_some_iff] at done
    obtain ⟨next, inserted, others⟩ := done
    obtain ⟨before, behind, rfl, rfl, last, first⟩ := insertSorted_spec inserted
    rw [List.isChain_append] at chain
    have kept : (before ++ entry :: behind).IsChain Precedes := by
      rw [List.isChain_append, List.isChain_cons]
      refine ⟨chain.1, ⟨fun x member => Or.inl (first x member), chain.2.1⟩, fun x member y here => ?_⟩
      obtain rfl : entry = y := Option.some.inj here
      exact Or.inr (last x member)
    obtain ⟨perm, chain'⟩ := ih others kept
    refine ⟨perm.trans ?_, chain'⟩
    simpa only [List.append_assoc, List.cons_append] using List.perm_middle.symm.append_left before

theorem exists_incomparable_of_insertions {left start : List (String × Value)}
    (failed : left.foldlM (fun sorted entry => insertSorted entry sorted) start = none) :
    ∃ a ∈ start ++ left, ∃ b ∈ start ++ left, entryLess? a b = none := by
  induction left generalizing start with
  | nil => cases failed
  | cons entry rest ih =>
    rw [List.foldlM_cons] at failed
    cases inserted : insertSorted entry start with
    | none =>
      obtain ⟨other, member, none⟩ := exists_incomparable_of_insertSorted inserted
      exact ⟨entry, by simp, other, by simp [member], none⟩
    | some next =>
      obtain ⟨before, behind, rfl, rfl, _, _⟩ := insertSorted_spec inserted
      obtain ⟨a, member, b, member', none⟩ := ih (by simpa [inserted] using failed)
      exact ⟨a, by simpa [or_assoc, or_left_comm] using member, b, by simpa [or_assoc, or_left_comm] using member', none⟩

/-- Sorting loses nothing and adds nothing, and it has compared any two entries that stand side by side in the end. -/
theorem sortEntries_spec {entries sorted : List (String × Value)} (done : sortEntries entries = some sorted) :
    sorted.Perm entries ∧ sorted.IsChain Precedes := by
  match entries with
  | [] =>
    obtain rfl := Option.some.inj done
    exact ⟨.refl _, .nil⟩
  | [entry] =>
    obtain rfl := Option.some.inj done
    exact ⟨.refl _, .singleton entry⟩
  | first :: second :: rest =>
    simp only [sortEntries, Option.bind_eq_bind, Option.bind_eq_some_iff, Prod.exists] at done
    obtain ⟨falling, _, run, left, taken, inserted⟩ := done
    obtain ⟨whole, compared⟩ := takeRun_spec taken
    rw [← whole, ← List.cons_append]
    cases falling with
    | true =>
      have chain : (first :: run).reverse.IsChain Precedes := List.isChain_reverse.mpr (compared.imp fun _ _ => Or.inl)
      obtain ⟨perm, chain'⟩ := insertions_spec inserted chain
      exact ⟨perm.trans ((List.reverse_perm _).append_right left), chain'⟩
    | false => exact insertions_spec inserted (compared.imp fun _ _ => Or.inr)

theorem exists_incomparable_of_sortEntries {entries : List (String × Value)} (failed : sortEntries entries = none) :
    ∃ a ∈ entries, ∃ b ∈ entries, entryLess? a b = none := by
  match entries with
  | [] | [_] => cases failed
  | first :: second :: rest =>
    rw [sortEntries] at failed
    cases compared : entryLess? second first with
    | none => exact ⟨second, by simp, first, by simp, compared⟩
    | some falling =>
      cases taken : takeRun falling first (second :: rest) with
      | none => exact exists_incomparable_of_takeRun taken
      | some parts =>
        obtain ⟨run, left⟩ := parts
        simp only [compared, taken, Option.bind_eq_bind, Option.bind_some] at failed
        obtain ⟨a, member, b, member', none⟩ := exists_incomparable_of_insertions failed
        have among {x : String × Value}
            (found : x ∈ (if falling then (first :: run).reverse else first :: run) ++ left) :
            x ∈ first :: second :: rest := by
          rw [← (takeRun_spec taken).1]
          cases falling <;> simpa [or_assoc, or_comm, or_left_comm] using found
        exact ⟨a, among member, b, among member', none⟩

/-- Whether a key comes no later than another. -/
def KeyLE (a b : String × Value) : Prop := a.1 ≤ b.1

instance : Trans KeyLE KeyLE KeyLE := ⟨le_trans⟩

theorem keyLE_of_precedes {a b : String × Value} (precedes : Precedes a b) : KeyLE a b := by
  unfold Precedes entryLess? at precedes
  by_cases same : a.1 = b.1
  · exact same.le
  · simp only [same, Ne.symm same, if_false, Option.some.injEq, decide_eq_true_eq, decide_eq_false_iff_not] at precedes
    exact precedes.elim le_of_lt not_lt.mp

theorem pairwise_sortEntries {entries sorted : List (String × Value)} (done : sortEntries entries = some sorted) :
    sorted.Pairwise KeyLE :=
  List.isChain_iff_pairwise.mp ((sortEntries_spec done).2.imp fun _ _ => keyLE_of_precedes)

/-- Entries with different keys, in the order of the keys. -/
theorem exists_sorted {entries : List (String × Value)} (distinct : (entries.map Prod.fst).Nodup) :
    ∃ sorted, sortEntries entries = some sorted ∧ sorted.Perm entries ∧ sorted.Pairwise fun a b => a.1 < b.1 := by
  cases done : sortEntries entries with
  | none =>
    obtain ⟨a, member, b, member', none⟩ := exists_incomparable_of_sortEntries done
    by_cases key : a.1 = b.1
    · obtain rfl := List.inj_on_of_nodup_map distinct member member' key
      simp [entryLess?, same_refl] at none
    · simp [entryLess?, key] at none
  | some sorted =>
    have perm := (sortEntries_spec done).1
    have apart : (sorted.map Prod.fst).Nodup := (perm.map Prod.fst).nodup_iff.mpr distinct
    rw [List.Nodup, List.pairwise_map] at apart
    exact ⟨sorted, rfl, perm, ((pairwise_sortEntries done).and apart).imp fun both => lt_of_le_of_ne both.1 both.2⟩

end AccessPolicy.Value
