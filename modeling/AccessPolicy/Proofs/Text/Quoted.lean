import AccessPolicy.Text.Numeral
import AccessPolicy.Text.Quoted
import Mathlib.Tactic.SplitIfs

namespace AccessPolicy.Text

/-- The byte at the start of a quoted text, and what follows it. -/
def readByte : List Char → Nat × List Char
  | '\\' :: 'x' :: a :: b :: rest => (16 * (baseDigit? a).getD 0 + (baseDigit? b).getD 0, rest)
  | '\\' :: 'n' :: rest => (10, rest)
  | '\\' :: 'r' :: rest => (13, rest)
  | '\\' :: 't' :: rest => (9, rest)
  | '\\' :: c :: rest => (c.toNat, rest)
  | c :: rest => (c.toNat, rest)
  | [] => (0, [])

theorem baseDigit_digitChar : ∀ d < 16, baseDigit? (Nat.digitChar d) = some d := by decide

theorem hex_two {n : Nat} (small : n < 256) : hex 2 n = [Nat.digitChar (n / 16), Nat.digitChar (n % 16)] := by
  unfold hex
  rw [Nat.toDigits_eq_if (by decide)]
  split
  · rename_i single
    rw [Nat.div_eq_of_lt single, Nat.mod_eq_of_lt single]
    rfl
  · rw [Nat.toDigits_of_lt_base (by omega)]
    rfl

/-- A byte in quotes is read back, whatever follows it. -/
theorem readByte_quoteByte {quote : Char} (isQuote : quote = '\'' ∨ quote = '"') (b : UInt8) (rest : List Char) :
    readByte (quoteByte quote b ++ rest) = (b.toNat, rest) := by
  have small : b.toNat < 256 := b.toNat_lt
  have value : (Char.ofNat b.toNat).toNat = b.toNat := by
    rw [Char.ofNat, dif_pos (Or.inl (by omega))]
    rfl
  unfold quoteByte shortEscape?
  simp only
  generalize Char.ofNat b.toNat = c at value
  by_cases special : c = quote ∨ c = '\\'
  · have marked : (decide (c = quote) || decide (c = '\\')) = true := by simpa using special
    rw [if_pos marked]
    rcases special with rfl | rfl
    · rcases isQuote with rfl | rfl <;> simp [readByte, ← value]
    · simp [readByte, ← value]
  · have unmarked : ¬(decide (c = quote) || decide (c = '\\')) = true := by simpa using special
    rw [if_neg unmarked]
    obtain ⟨notQuote, notBackslash⟩ : ¬c = quote ∧ ¬c = '\\' := by simpa using special
    by_cases feed : c = '\n'
    · subst feed; simp [readByte, ← value]
    by_cases back : c = '\r'
    · subst back; simp [readByte, ← value]
    by_cases tab : c = '\t'
    · subst tab; simp [readByte, ← value]
    simp only [feed, back, tab, if_false]
    split
    · simp [readByte, notBackslash, value]
    · rw [hex_two small]
      simp only [List.cons_append, List.nil_append, readByte, baseDigit_digitChar (b.toNat / 16) (by omega),
        baseDigit_digitChar (b.toNat % 16) (by omega), Option.getD_some, Nat.div_add_mod]

theorem quoteByte_ne_nil (quote : Char) (b : UInt8) : quoteByte quote b ≠ [] := by
  unfold quoteByte shortEscape?
  simp only
  split_ifs <;> simp

theorem flatMap_quoteByte_inj {quote : Char} (isQuote : quote = '\'' ∨ quote = '"') {bytes bytes' : List UInt8}
    (same : bytes.flatMap (quoteByte quote) = bytes'.flatMap (quoteByte quote)) : bytes = bytes' := by
  induction bytes generalizing bytes' with
  | nil =>
    cases bytes' with
    | nil => rfl
    | cons b' rest' => simp [List.flatMap_cons, quoteByte_ne_nil] at same
  | cons b rest ih =>
    cases bytes' with
    | nil => simp [List.flatMap_cons, quoteByte_ne_nil] at same
    | cons b' rest' =>
      rw [List.flatMap_cons, List.flatMap_cons] at same
      have read := congrArg readByte same
      rw [readByte_quoteByte isQuote, readByte_quoteByte isQuote, Prod.mk.injEq] at read
      rw [UInt8.toNat_inj.mp read.1, ih read.2]

theorem chooseQuote_cases (s : List Char) : chooseQuote s = '\'' ∨ chooseQuote s = '"' := by
  unfold chooseQuote
  split
  · exact Or.inr rfl
  · exact Or.inl rfl

/-- Bytes in quotes are different for different bytes. -/
theorem quotedBytes_inj {bytes bytes' : List UInt8} (same : quotedBytes bytes = quotedBytes bytes') :
    bytes = bytes' := by
  have isQuote := chooseQuote_cases (bytes.map fun b => Char.ofNat b.toNat)
  have texts := String.ofList_injective same
  simp only [List.cons_append, List.cons.injEq, true_and] at texts
  obtain ⟨quotes, bodies⟩ := texts
  rw [← quotes] at bodies
  exact flatMap_quoteByte_inj isQuote (List.append_cancel_right bodies)

end AccessPolicy.Text
