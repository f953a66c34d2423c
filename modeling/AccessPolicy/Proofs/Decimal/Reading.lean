import AccessPolicy.Proofs.Decimal.Shortest
import AccessPolicy.Proofs.Text.Digits
import AccessPolicy.Text.Numeral
import Mathlib.Data.Nat.Factorization.Basic

namespace AccessPolicy

namespace Text

/-- Whether a character is one that the texts of numbers are made of. -/
def IsNumeric (c : Char) : Prop := c.isDigit = true ∨ c = '.' ∨ c = 'e' ∨ c = '+' ∨ c = '-'

theorem bounds_of_isDigit {c : Char} (digit : c.isDigit = true) : 48 ≤ c.toNat ∧ c.toNat ≤ 57 := by
  simp only [Char.isDigit, Bool.and_eq_true, decide_eq_true_eq] at digit
  exact digit

theorem isNumeric_plain {c : Char} (numeric : IsNumeric c) : c.toNat < 128 ∧ isAsciiBlank c = false := by
  rcases numeric with digit | rfl | rfl | rfl | rfl
  · obtain ⟨lower, upper⟩ := bounds_of_isDigit digit
    refine ⟨by omega, ?_⟩
    simp only [isAsciiBlank, Bool.or_eq_false_iff, beq_eq_false_iff_ne, Bool.and_eq_false_iff, decide_eq_false_iff_not]
    refine ⟨?_, Or.inr (by omega)⟩
    rintro rfl
    simp at digit
  all_goals decide

theorem numeralBody_of_numeric {s : List Char} (numeric : ∀ c ∈ s, IsNumeric c) : numeralBody s = s := by
  have folded : foldDigits s = s := by
    rw [foldDigits, if_pos]
    simpa using fun c member => (isNumeric_plain (numeric c member)).1
  have kept : ∀ t : List Char, (∀ c ∈ t, IsNumeric c) → t.dropWhile isAsciiBlank = t := by
    intro t numeric
    cases t with
    | nil => rfl
    | cons c rest => simp [(isNumeric_plain (numeric c (List.mem_cons_self ..))).2]
  rw [numeralBody, folded, kept s numeric, kept s.reverse (by simpa using numeric), List.reverse_reverse]

/-- The numbers that digits stand for. -/
def digitValues (digits : List Char) : List Nat := digits.map fun c => c.toNat - 48

theorem spanBaseDigits_digits {digits rest : List Char} (all : ∀ c ∈ digits, c.isDigit = true)
    (stops : spanBaseDigits 10 rest = ([], rest)) :
    spanBaseDigits 10 (digits ++ rest) = (digitValues digits, rest) := by
  induction digits with
  | nil => simpa [digitValues] using stops
  | cons c digits ih =>
    rw [List.forall_mem_cons] at all
    obtain ⟨lower, upper⟩ := bounds_of_isDigit all.1
    have value : (baseDigit? c).filter (· < 10) = some (c.toNat - 48) := by
      have inRange : ('0' ≤ c) ∧ (c ≤ '9') := ⟨lower, upper⟩
      have small : c.toNat - 48 < 10 := by omega
      simp [baseDigit?, inRange, small]
    simp only [List.cons_append, spanBaseDigits, value, ih all.2, digitValues, List.map_cons]

theorem ofBaseDigits_digitValues (digits : List Char) :
    ofBaseDigits 10 (digitValues digits) = Nat.ofDigitChars 10 digits 0 := by
  simp only [ofBaseDigits, digitValues, List.foldl_map, Nat.ofDigitChars_eq_foldl, mul_comm]
  rfl

/-- The mark of a sign. -/
def signMark (negative : Bool) : List Char := if negative then ['-'] else []

theorem takeSign_digits {negative : Bool} {digit : Char} {rest : List Char} (isDigit : digit.isDigit = true) :
    takeSign (signMark negative ++ digit :: rest) = (negative, digit :: rest) := by
  cases negative with
  | true => rfl
  | false =>
    have minus : digit ≠ '-' := by rintro rfl; simp at isDigit
    have plus : digit ≠ '+' := by rintro rfl; simp at isDigit
    simp [signMark, takeSign, minus, plus]

/-- A text that starts with a digit names no infinity and no absence of a number. -/
theorem map_toLower_ne {digit first : Char} {rest others : List Char} (isDigit : digit.isDigit = true)
    (letter : first.isDigit = false) : ((digit :: rest).map Char.toLower == first :: others) = false := by
  have same : digit.toLower = digit := by
    obtain ⟨lower, upper⟩ := bounds_of_isDigit isDigit
    have notUpper : ¬(65 ≤ digit.val ∧ digit.val ≤ 90) := by
      rintro ⟨more, _⟩
      have : 65 ≤ digit.toNat := more
      omega
    exact dif_neg notUpper
  have different : digit ≠ first := by rintro rfl; simp [isDigit] at letter
  simp [same, different]

/-- A text that starts with a digit, behind a sign, is read from its digits and what follows them. -/
theorem readFloat_digits {negative : Bool} {digit : Char} {whole rest : List Char} (isDigit : digit.isDigit = true)
    (wholeDigits : ∀ c ∈ whole, c.isDigit = true) (numeric : ∀ c ∈ rest, IsNumeric c)
    (stops : spanBaseDigits 10 rest = ([], rest)) :
    readFloat (signMark negative ++ (digit :: whole ++ rest)) =
      let (fraction, tail) := match rest with
        | '.' :: rest => spanBaseDigits 10 rest
        | rest => ([], rest)
      (readExponent tail).map fun e =>
        .ofDecimal negative (ofBaseDigits 10 (digitValues (digit :: whole) ++ fraction)) (e - fraction.length) := by
  have all : ∀ c ∈ digit :: whole, c.isDigit = true := List.forall_mem_cons.mpr ⟨isDigit, wholeDigits⟩
  have body :
      numeralBody (signMark negative ++ (digit :: whole ++ rest)) = signMark negative ++ (digit :: whole ++ rest) := by
    refine numeralBody_of_numeric fun c member => ?_
    rcases List.mem_append.mp member with sign | later
    · cases negative with
      | true => exact Or.inr (Or.inr (Or.inr (Or.inr (List.mem_singleton.mp sign))))
      | false => cases sign
    · rcases List.mem_append.mp later with inWhole | inRest
      · exact Or.inl (all c inWhole)
      · exact numeric c inRest
  have split := spanBaseDigits_digits all stops
  rw [readFloat, body, List.cons_append, takeSign_digits isDigit]
  rw [List.cons_append] at split
  have infinite : ((digit :: (whole ++ rest)).map Char.toLower == "inf".toList) = false :=
    map_toLower_ne isDigit (by decide)
  have infinity : ((digit :: (whole ++ rest)).map Char.toLower == "infinity".toList) = false :=
    map_toLower_ne isDigit (by decide)
  have nan : ((digit :: (whole ++ rest)).map Char.toLower == "nan".toList) = false :=
    map_toLower_ne isDigit (by decide)
  simp only [infinite, infinity, nan, split, Bool.or_self, Bool.false_eq_true, if_false]
  exact if_neg (by simp [digitValues])

/-- A text with a point is read as the decimal of its digits. -/
theorem readFloat_point (negative : Bool) {digit : Char} (whole fraction tail : List Char) (exponent : Int)
    (isDigit : digit.isDigit = true) (wholeDigits : ∀ c ∈ whole, c.isDigit = true)
    (fractionDigits : ∀ c ∈ fraction, c.isDigit = true) (numeric : ∀ c ∈ tail, IsNumeric c)
    (stops : spanBaseDigits 10 tail = ([], tail)) (read : readExponent tail = some exponent) :
    readFloat (signMark negative ++ (digit :: whole ++ '.' :: (fraction ++ tail))) =
      some (.ofDecimal negative (Nat.ofDigitChars 10 (digit :: whole ++ fraction) 0) (exponent - fraction.length)) := by
  have rest : ∀ c ∈ '.' :: (fraction ++ tail), IsNumeric c := by
    refine List.forall_mem_cons.mpr ⟨Or.inr (Or.inl rfl), fun c member => ?_⟩
    exact (List.mem_append.mp member).elim (fun inFraction => Or.inl (fractionDigits c inFraction)) (numeric c)
  have together : digitValues (digit :: whole) ++ digitValues fraction = digitValues (digit :: whole ++ fraction) :=
    List.map_append.symm
  rw [readFloat_digits isDigit wholeDigits rest rfl]
  simp only [spanBaseDigits_digits fractionDigits stops, read, Option.map_some, together, ofBaseDigits_digitValues]
  rw [digitValues, List.length_map]

/-- A text without a point is read as the decimal of its digits, too. -/
theorem readFloat_pointless (negative : Bool) {digit : Char} (whole tail : List Char) (exponent : Int)
    (isDigit : digit.isDigit = true) (wholeDigits : ∀ c ∈ whole, c.isDigit = true)
    (numeric : ∀ c ∈ 'e' :: tail, IsNumeric c) (read : readExponent ('e' :: tail) = some exponent) :
    readFloat (signMark negative ++ (digit :: whole ++ 'e' :: tail)) =
      some (.ofDecimal negative (Nat.ofDigitChars 10 (digit :: whole) 0) exponent) := by
  rw [readFloat_digits isDigit wholeDigits numeric rfl]
  simp [read, ofBaseDigits_digitValues]

/-- The digits of an exponent, two at least. -/
def exponentDigits (e : Int) : List Char := paddedDigits (2 - (Nat.toDigits 10 e.natAbs).length) e.natAbs

theorem exponentText_eq (e : Int) :
    Binary64.exponentText e = (if e < 0 then '-' else '+') :: exponentDigits e := rfl

theorem isDigit_of_mem_exponentDigits (e : Int) : ∀ c ∈ exponentDigits e, c.isDigit = true :=
  fun _ => isDigit_of_mem_paddedDigits

/-- An exponent is read as it was written. -/
theorem readExponent_exponentText (e : Int) : readExponent ('e' :: Binary64.exponentText e) = some e := by
  have sign : takeSign (Binary64.exponentText e) = (decide (e < 0), exponentDigits e) := by
    rw [exponentText_eq]
    by_cases negative : e < 0 <;> simp [negative, takeSign]
  have nothing : spanBaseDigits 10 [] = ([], []) := rfl
  have digits : spanBaseDigits 10 (exponentDigits e) = (digitValues (exponentDigits e), []) := by
    simpa using spanBaseDigits_digits (isDigit_of_mem_exponentDigits e) nothing
  have value : ofBaseDigits 10 (digitValues (exponentDigits e)) = e.natAbs := by
    rw [ofBaseDigits_digitValues, exponentDigits, ofDigitChars_paddedDigits]
  obtain ⟨first, others, some⟩ : ∃ first others, digitValues (exponentDigits e) = first :: others :=
    List.exists_cons_of_ne_nil (by simp [digitValues, exponentDigits, paddedDigits_ne_nil])
  rw [some] at digits value
  simp only [readExponent, BEq.rfl, Bool.true_or, if_true, sign, digits, value, Option.some.injEq, decide_eq_true_eq]
  split <;> simp only [Int.ofNat_eq_natCast] <;> omega

theorem isNumeric_exponentText (e : Int) : ∀ c ∈ 'e' :: Binary64.exponentText e, IsNumeric c := by
  rw [exponentText_eq]
  simp only [List.forall_mem_cons]
  refine ⟨Or.inr (Or.inr (Or.inl rfl)), ?_, fun c member => Or.inl (isDigit_of_mem_exponentDigits e c member)⟩
  split
  · exact Or.inr (Or.inr (Or.inr (Or.inr rfl)))
  · exact Or.inr (Or.inr (Or.inr (Or.inl rfl)))

end Text

namespace Binary64
open Text

theorem ofDecimal_zero (negative : Bool) (scale : Int) : ofDecimal negative 0 scale = nought negative := by
  simp [ofDecimal]

theorem ofDecimal_sign {negative : Bool} {digits m : Nat} {scale e : Int}
    (read : ofDecimal false digits scale = finite false m e) :
    ofDecimal negative digits scale = finite negative m e := by
  unfold ofDecimal at read ⊢
  simp only at read ⊢
  split_ifs at read ⊢
  · simpa [nought] using read
  · simpa [nought] using read
  · exact ofFraction_sign read
  · exact ofFraction_sign read

theorem toDigits_mul_pow {n : Nat} (some : 0 < n) (zeros : Nat) :
    Nat.toDigits 10 (n * 10 ^ zeros) = Nat.toDigits 10 n ++ List.replicate zeros '0' := by
  induction zeros with
  | zero => simp
  | succ zeros ih =>
    have one := Nat.toDigits_append_toDigits (b := 10) (n := n * 10 ^ zeros) (d := 0) (by norm_num) (by positivity)
      (by norm_num)
    rw [ih, Nat.toDigits_zero, add_zero] at one
    rw [pow_succ, ← mul_assoc, mul_comm _ 10, ← one, List.append_assoc, List.replicate_succ']

/-- Noughts behind the digits of a decimal do not change what it is read as. -/
theorem ofDecimal_mul_pow (negative : Bool) {n : Nat} (some : 0 < n) (zeros : Nat) (scale : Int) :
    ofDecimal negative (n * 10 ^ zeros) (scale - zeros) = ofDecimal negative n scale := by
  have width : ((Nat.toDigits 10 (n * 10 ^ zeros)).length : Int) + (scale - zeros) =
      (Nat.toDigits 10 n).length + scale := by
    rw [toDigits_mul_pow some, List.length_append, List.length_replicate]
    omega
  unfold ofDecimal
  simp only [Int.ofNat_eq_natCast, width]
  rw [if_neg (by positivity), if_neg some.ne']
  congr 2
  simp only [Nat.pow_eq]
  have power (k : Nat) : 0 < 10 ^ k := by positivity
  by_cases up : 0 ≤ scale
  · obtain ⟨s, rfl⟩ := Int.eq_ofNat_of_zero_le up
    rw [if_pos up]
    by_cases more : zeros ≤ s
    · rw [if_pos (by omega), show ((s : Int) - zeros).toNat = s - zeros by omega, mul_assoc, ← pow_add,
        Nat.add_sub_cancel' more, Int.toNat_natCast]
    · rw [if_neg (by omega), show (-((s : Int) - zeros)).toNat = zeros - s by omega, Int.toNat_natCast,
        ← Nat.add_sub_cancel' (Nat.le_of_not_le more), pow_add, ← mul_assoc, Nat.add_sub_cancel_left]
      simpa using ofFraction_mul negative (Nat.mul_pos some (power s)) one_pos (power (zeros - s))
  · obtain ⟨s, hs⟩ := Int.eq_ofNat_of_zero_le (by omega : 0 ≤ -scale)
    rw [if_neg up, if_neg (by omega), show (-(scale - (zeros : Int))).toNat = s + zeros by omega, hs, Int.toNat_natCast,
      pow_add]
    exact ofFraction_mul negative some (power s) (power zeros)

/-- Noughts at the end are taken off the digits of a number, and no other digits. -/
theorem significant_eq {n : Nat} (last : ¬10 ∣ n) (zeros : Nat) :
    ((Nat.toDigits 10 (n * 10 ^ zeros)).reverse.dropWhile (· == '0')).reverse = Nat.toDigits 10 n := by
  have some : 0 < n := Nat.pos_of_ne_zero (by rintro rfl; exact last (dvd_zero 10))
  have ends : (n % 10).digitChar ≠ '0' := by
    rw [ne_eq, Nat.digitChar_eq_zero]
    exact fun none => last (Nat.dvd_of_mod_eq_zero none)
  have kept : (Nat.toDigits 10 n).reverse.dropWhile (· == '0') = (Nat.toDigits 10 n).reverse := by
    rw [Nat.toDigits_eq_if (by norm_num)]
    split
    · rename_i small
      rw [Nat.mod_eq_of_lt small] at ends
      simp [ends]
    · simp [ends]
  rw [toDigits_mul_pow some, List.reverse_append, List.reverse_replicate, List.dropWhile_append_of_pos (by simp), kept,
    List.reverse_reverse]

section Written

variable {negative : Bool} {n : Nat} {point : Int}

/-- All digits stand behind the point. -/
theorem readFloat_behind (behind : point ≤ 0) :
    readFloat (signMark negative ++ ('0' :: '.' :: paddedDigits (-point).toNat n)) =
      some (ofDecimal negative n (point - (Nat.toDigits 10 n).length)) := by
  have read := readFloat_point negative [] (paddedDigits (-point).toNat n) [] 0 (by decide : '0'.isDigit = true)
    (by simp) (fun c => isDigit_of_mem_paddedDigits) (by simp) rfl rfl
  have value : Nat.ofDigitChars 10 (['0'] ++ paddedDigits (-point).toNat n) 0 = n := by
    rw [Nat.ofDigitChars_append]
    exact ofDigitChars_paddedDigits ..
  have place : 0 - ((paddedDigits (-point).toNat n).length : Int) = point - (Nat.toDigits 10 n).length := by
    rw [paddedDigits, List.length_append, List.length_replicate]
    omega
  rw [value, place] at read
  simpa using read

/-- All digits stand before the point. -/
theorem readFloat_before (some : 0 < n) (zeros : Nat) :
    readFloat (signMark negative ++ (Nat.toDigits 10 n ++ List.replicate zeros '0' ++ ['.', '0'])) =
      .some (ofDecimal negative n zeros) := by
  obtain ⟨first, others, written, isDigit, all⟩ := exists_toDigits_cons n
  have whole : ∀ c ∈ others ++ List.replicate zeros '0', c.isDigit = true := fun c member =>
    (List.mem_append.mp member).elim (all c) isDigit_of_mem_noughts
  have read := readFloat_point negative (others ++ List.replicate zeros '0') ['0'] [] 0 isDigit whole (by simp)
    (by simp) rfl rfl
  have value :
      Nat.ofDigitChars 10 (first :: (others ++ List.replicate zeros '0') ++ ['0']) 0 = n * 10 ^ (zeros + 1) := by
    rw [← List.cons_append, ← written, ← List.replicate_one, List.append_assoc, List.replicate_append_replicate,
      Nat.ofDigitChars_append, Nat.ofDigitChars_replicate_zero, Nat.ofDigitChars_ten_toDigits, mul_comm]
  have shift := ofDecimal_mul_pow negative some (zeros + 1) zeros
  rw [value, show (0 : Int) - ((['0'] : List Char).length : Int) = zeros - (zeros + 1 : Nat) by simp, shift] at read
  simpa [written] using read

/-- The point stands among the digits. -/
theorem readFloat_among {before : Nat} (some : 0 < before) (short : before < (Nat.toDigits 10 n).length) :
    readFloat (signMark negative ++ ((Nat.toDigits 10 n).take before ++ '.' :: (Nat.toDigits 10 n).drop before)) =
      .some (ofDecimal negative n (before - (Nat.toDigits 10 n).length)) := by
  obtain ⟨first, others, written⟩ := List.exists_cons_of_ne_nil
    (show (Nat.toDigits 10 n).take before ≠ [] by simp [Nat.toDigits_ne_nil, some.ne'])
  have all : ∀ c ∈ first :: others, c.isDigit = true := by
    rw [← written]
    exact fun c member => isDigit_of_mem_toDigits (List.mem_of_mem_take member)
  have fraction : ∀ c ∈ (Nat.toDigits 10 n).drop before, c.isDigit = true := fun c member =>
    isDigit_of_mem_toDigits (List.mem_of_mem_drop member)
  rw [List.forall_mem_cons] at all
  have read := readFloat_point negative others _ [] 0 all.1 all.2 fraction (by simp) rfl rfl
  rw [← written, List.take_append_drop, Nat.ofDigitChars_ten_toDigits, List.length_drop, List.append_nil] at read
  rw [read]
  congr 2
  omega

/-- The point stands behind the first digit, and the number is shown with an exponent. -/
theorem readFloat_scientific (e : Int) :
    readFloat (signMark negative ++ ((Nat.toDigits 10 n).take 1 ++
      (if (Nat.toDigits 10 n).length ≤ 1 then [] else '.' :: (Nat.toDigits 10 n).drop 1) ++ 'e' :: exponentText e)) =
      some (ofDecimal negative n (e + 1 - (Nat.toDigits 10 n).length)) := by
  have value : Nat.ofDigitChars 10 (Nat.toDigits 10 n) 0 = n := Nat.ofDigitChars_ten_toDigits
  obtain ⟨first, others, written, isDigit, all⟩ := exists_toDigits_cons n
  rw [written] at value ⊢
  cases others with
  | nil =>
    have read := readFloat_pointless negative [] (exponentText e) e isDigit (by simp) (isNumeric_exponentText e)
      (readExponent_exponentText e)
    rw [value] at read
    simpa using read
  | cons second others =>
    have read := readFloat_point negative [] (second :: others) ('e' :: exponentText e) e isDigit (by simp) all
      (isNumeric_exponentText e) rfl (readExponent_exponentText e)
    simp only [List.singleton_append, value] at read
    simp only [List.take_succ_cons, List.take_zero, List.drop_succ_cons, List.drop_zero, List.length_cons] at read ⊢
    rw [if_neg (by omega)]
    simp only [List.cons_append, List.nil_append] at read ⊢
    rw [read]
    congr 2
    push_cast
    ring

/-- Digits with a point at some place are read as the decimal. -/
theorem readFloat_decimalText (some : 0 < n) (point : Int) :
    readFloat (signMark negative ++ decimalText (Nat.toDigits 10 n) point) =
      .some (ofDecimal negative n (point - (Nat.toDigits 10 n).length)) := by
  unfold decimalText
  split
  · split
    · rename_i range behind
      exact readFloat_behind behind
    · split
      · rename_i range before short
        rw [readFloat_before some]
        congr 2
        omega
      · rename_i range before long
        rw [readFloat_among (by omega) (by omega)]
        congr 2
        omega
  · simpa using readFloat_scientific (point - 1)

end Written

/-- A number other than nought is shown by the digits of a decimal that is read as it, with a point at its place. -/
theorem exists_decimalText {negative : Bool} {m : Nat} {e : Int} (rounded : (finite negative m e).IsRounded)
    (some : 0 < m) :
    ∃ n point, 0 < n ∧
      (text (finite negative m e)).toList = signMark negative ++ decimalText (Nat.toDigits 10 n) point ∧
      ofDecimal negative n (point - (Nat.toDigits 10 n).length) = finite negative m e := by
  have reads := ofDecimal_shortest rounded some
  obtain ⟨zeros, n, last, split⟩ : ∃ zeros n, ¬10 ∣ n ∧ (shortest m e).1 = 10 ^ zeros * n := by
    refine Nat.exists_eq_pow_mul_and_not_dvd ?_ 10 (by norm_num)
    intro none
    rw [none, ofDecimal_zero] at reads
    exact some.ne (finite.inj reads).2.1
  have nonzero : 0 < n := Nat.pos_of_ne_zero (by rintro rfl; exact last (dvd_zero 10))
  rw [mul_comm] at split
  have shown : (text (finite negative m e)).toList = signMark negative ++
      decimalText ((Nat.toDigits 10 (shortest m e).1).reverse.dropWhile (· == '0')).reverse
        ((Nat.toDigits 10 (shortest m e).1).length + (shortest m e).2) := by
    cases negative <;> simp [text, signMark, some.ne']
  have place : ((Nat.toDigits 10 (shortest m e).1).length : Int) + (shortest m e).2 - (Nat.toDigits 10 n).length =
      zeros + (shortest m e).2 := by
    rw [split, toDigits_mul_pow nonzero, List.length_append, List.length_replicate]
    omega
  have unshifted := ofDecimal_mul_pow false nonzero zeros (zeros + (shortest m e).2)
  rw [← split, add_sub_cancel_left, reads, ← place] at unshifted
  refine ⟨n, _, nonzero, shown.trans ?_, ofDecimal_sign unshifted.symm⟩
  rw [split, significant_eq last]

/-- Every number that is read is one that rounding gives. -/
theorem isRounded_of_readFloat {s : List Char} {x : Binary64} (read : readFloat s = some x) : x.IsRounded := by
  unfold readFloat at read
  simp only at read
  split_ifs at read
  · obtain rfl := Option.some.inj read
    trivial
  · obtain rfl := Option.some.inj read
    trivial
  · obtain ⟨e, _, rfl⟩ := Option.map_eq_some_iff.mp read
    exact isRounded_ofDecimal ..

/-- The text of a number is read as that number. -/
theorem readFloat_text {x : Binary64} (rounded : x.IsRounded) (number : ∀ object, x ≠ .nan object) :
    readFloat x.text.toList = some x := by
  cases x with
  | nan object => exact absurd rfl (number object)
  | infinite negative => cases negative <;> decide +kernel
  | finite negative m e =>
    rcases Nat.eq_zero_or_pos m with rfl | some
    · obtain rfl : e = leastExponent := rounded.2.2.2.resolve_left (by norm_num)
      cases negative <;> decide +kernel
    · obtain ⟨n, point, nonzero, shown, reads⟩ := exists_decimalText rounded some
      rw [shown, readFloat_decimalText nonzero, reads]

end Binary64
end AccessPolicy
