namespace AccessPolicy.Text

theorem isDigit_of_mem_toDigits {n : Nat} {c : Char} (member : c ∈ Nat.toDigits 10 n) : c.isDigit = true :=
  Nat.isDigit_of_mem_toDigits (by decide) (by decide) member

theorem toDigits_inj {m n : Nat} (same : Nat.toDigits 10 m = Nat.toDigits 10 n) : m = n := by
  rw [← Nat.ofDigitChars_ten_toDigits (n := m), same, Nat.ofDigitChars_ten_toDigits]

theorem exists_toDigits_cons (n : Nat) : ∃ first others, Nat.toDigits 10 n = first :: others ∧ first.isDigit = true ∧
    ∀ c ∈ others, c.isDigit = true := by
  obtain ⟨first, others, written⟩ := List.exists_cons_of_ne_nil (Nat.toDigits_ne_nil (n := n) (b := 10))
  have all : ∀ c ∈ first :: others, c.isDigit = true := by
    rw [← written]
    exact fun c => isDigit_of_mem_toDigits
  exact ⟨first, others, written, List.forall_mem_cons.mp all⟩

theorem isDigit_of_mem_noughts {zeros : Nat} {c : Char} (member : c ∈ List.replicate zeros '0') : c.isDigit = true := by
  rw [List.eq_of_mem_replicate member]
  rfl

/-- The digits of a number behind noughts. -/
def paddedDigits (zeros n : Nat) : List Char := List.replicate zeros '0' ++ Nat.toDigits 10 n

theorem isDigit_of_mem_paddedDigits {zeros n : Nat} {c : Char} (member : c ∈ paddedDigits zeros n) : c.isDigit = true :=
  (List.mem_append.mp member).elim isDigit_of_mem_noughts isDigit_of_mem_toDigits

/-- Noughts before digits are worth nothing. -/
theorem ofDigitChars_paddedDigits (zeros n : Nat) : Nat.ofDigitChars 10 (paddedDigits zeros n) 0 = n := by
  rw [paddedDigits, Nat.ofDigitChars_append, Nat.ofDigitChars_replicate_zero, Nat.mul_zero,
    Nat.ofDigitChars_ten_toDigits]

theorem paddedDigits_ne_nil (zeros n : Nat) : paddedDigits zeros n ≠ [] := by
  simp [paddedDigits, Nat.toDigits_ne_nil]

theorem not_mem_of_digits {digits : List Char} {c : Char} (all : ∀ c ∈ digits, c.isDigit = true)
    (other : c.isDigit = false) : c ∉ digits := by
  intro member
  rw [all c member] at other
  cases other

/-- Digits end where no digit follows, so texts of digits followed by something else can be taken apart. -/
theorem digits_append_inj {digits digits' rest rest' : List Char} (all : ∀ c ∈ digits, c.isDigit = true)
    (all' : ∀ c ∈ digits', c.isDigit = true) (stops : rest.takeWhile Char.isDigit = [])
    (stops' : rest'.takeWhile Char.isDigit = []) (same : digits ++ rest = digits' ++ rest') :
    digits = digits' ∧ rest = rest' := by
  have taken := congrArg (List.takeWhile Char.isDigit) same
  rw [List.takeWhile_append_of_pos all, List.takeWhile_append_of_pos all', stops, stops', List.append_nil,
    List.append_nil] at taken
  exact ⟨taken, by rw [taken] at same; exact List.append_cancel_left same⟩

end AccessPolicy.Text
