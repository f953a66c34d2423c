import AccessPolicy.Yaml.Mark
import Mathlib.Data.List.Basic

namespace AccessPolicy.Yaml.Cursor

theorem rest_advance (c : Cursor) : c.advance.rest = c.rest.tail := by
  unfold advance
  split
  · simp [*]
  · split
    · simp [*]
    · split <;> simp [*]

/-- Whether some steps lead from one place to another. -/
def Follows (o c : Cursor) : Prop := ∃ n, c = advanceBy n o

/-- What steps keep, if each step does. -/
theorem Follows.keeps {P : Cursor → Prop} (step : ∀ c, P c → P c.advance) {o c : Cursor} (follows : Follows o c)
    (holds : P o) : P c := by
  obtain ⟨n, rfl⟩ := follows
  induction n generalizing o with
  | zero => exact holds
  | succ n ih => exact ih (step o holds)

theorem advanceBy_advanceBy (n m : Nat) (c : Cursor) : advanceBy m (advanceBy n c) = advanceBy (n + m) c := by
  induction n generalizing c with
  | zero => rw [Nat.zero_add]; rfl
  | succ n ih => rw [Nat.add_right_comm]; exact ih c.advance

theorem Follows.refl (c : Cursor) : c.Follows c := ⟨0, rfl⟩

theorem Follows.trans {o c d : Cursor} (first : o.Follows c) (second : c.Follows d) : o.Follows d := by
  obtain ⟨n, rfl⟩ := first
  obtain ⟨m, rfl⟩ := second
  exact ⟨n + m, advanceBy_advanceBy n m o⟩

theorem follows_advanceBy (n : Nat) (c : Cursor) : c.Follows (c.advanceBy n) := ⟨n, rfl⟩

theorem follows_advance (c : Cursor) : c.Follows c.advance := ⟨1, rfl⟩

theorem follows_skip (c : Cursor) (p : Char → Bool) : c.Follows (c.skip p) := ⟨_, rfl⟩

theorem advance_follows_advanceBy (n : Nat) (c : Cursor) : c.advance.Follows (c.advanceBy (n + 1)) := ⟨n, rfl⟩

theorem follows_lineBreak (c : Cursor) : c.Follows c.lineBreak.2 := by
  unfold lineBreak
  split
  · exact c.follows_advanceBy 2
  · split
    · exact c.follows_advance
    · split
      · exact c.follows_advance
      · exact .refl c
  · exact .refl c

theorem Follows.length_le {o c : Cursor} (follows : o.Follows c) : c.rest.length ≤ o.rest.length := by
  refine follows.keeps (P := fun c => c.rest.length ≤ o.rest.length) (fun c shorter => ?_) (Nat.le_refl _)
  rw [rest_advance, List.length_tail]
  omega

/-- Whoever goes on from a place with text left comes to a place with less text left. -/
theorem Follows.length_lt {o c : Cursor} (left : o.rest ≠ []) (follows : o.advance.Follows c) :
    c.rest.length < o.rest.length := by
  have shorter := follows.length_le
  rw [rest_advance, List.length_tail] at shorter
  have some_left := List.length_pos_iff.mpr left
  omega

/-- Whether all places from some place on are of a kind. -/
def Ahead (P : Mark → Prop) (c : Cursor) : Prop := ∀ d, c.Follows d → P d.mark

variable {P : Mark → Prop} {c d : Cursor}

theorem Ahead.here (ahead : c.Ahead P) : P c.mark := ahead c (.refl c)

theorem Ahead.of (ahead : c.Ahead P) (follows : c.Follows d) : d.Ahead P :=
  fun e later => ahead e (follows.trans later)

theorem atDocumentMark_eq (c : Cursor) :
    c.atDocumentMark =
      ((c.next == '-' && c.peek 1 == '-' && c.peek 2 == '-' || c.next == '.' && c.peek 1 == '.' && c.peek 2 == '.')
        && isGap (c.peek 3)) := by
  unfold atDocumentMark next
  split
  · rename_i here
    simp [peek, here]
  · rename_i here
    simp [peek, here]
  · rename_i noDashes noDots
    symm
    rw [Bool.and_eq_false_imp]
    intro either
    exfalso
    have same : ∃ ch after, (ch = '-' ∨ ch = '.') ∧ c.rest = ch :: ch :: ch :: after := by
      unfold peek at either
      match rest : c.rest with
      | [] | [_] | [_, _] => simp [rest, endMark] at either
      | ch :: ch' :: ch'' :: after =>
        simp only [rest, List.getD_cons_zero, List.getD_cons_succ, Bool.or_eq_true, Bool.and_eq_true, beq_iff_eq]
          at either
        rcases either with ⟨⟨rfl, rfl⟩, rfl⟩ | ⟨⟨rfl, rfl⟩, rfl⟩
        · exact ⟨'-', after, .inl rfl, rfl⟩
        · exact ⟨'.', after, .inr rfl, rfl⟩
    obtain ⟨ch, after, rfl | rfl, here⟩ := same
    · exact noDashes after here
    · exact noDots after here

end AccessPolicy.Yaml.Cursor
