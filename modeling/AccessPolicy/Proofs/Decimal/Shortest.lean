import AccessPolicy.Decimal.Shortest
import AccessPolicy.Proofs.Decimal.Rounding

namespace AccessPolicy.Binary64

/-- Below a power of ten is tested without fractions. -/
theorem below_ten_pow_iff {num den : Nat} {k : Int} (hd : 0 < den) :
    (if 0 ≤ k then num < den * Nat.pow 10 k.toNat else num * Nat.pow 10 (-k).toNat < den) ↔
      quotient num den < (10 : ℚ) ^ k := by
  rw [quotient, div_lt_iff₀ (by exact_mod_cast hd)]
  split
  · rename_i up
    obtain ⟨n, rfl⟩ := Int.eq_ofNat_of_zero_le up
    simp only [Int.toNat_natCast, Nat.pow_eq, zpow_natCast, mul_comm den]
    norm_cast
  · rename_i down
    obtain ⟨n, hn⟩ := Int.eq_ofNat_of_zero_le (by omega : 0 ≤ -k)
    obtain rfl : k = -(n : Int) := by omega
    simp only [neg_neg, Int.toNat_natCast, Nat.pow_eq, zpow_neg, zpow_natCast]
    rw [inv_mul_eq_div, lt_div_iff₀ (by positivity)]
    norm_cast

theorem magnitudeFrom_lower {num den : Nat} {k : Int} (hd : 0 < den)
    (lower : (10 : ℚ) ^ (k - 1) ≤ quotient num den) (steps : Nat) :
    (10 : ℚ) ^ (magnitudeFrom num den k steps - 1) ≤ quotient num den := by
  induction steps generalizing k with
  | zero => exact lower
  | succ steps ih =>
    rw [magnitudeFrom]
    by_cases below : quotient num den < (10 : ℚ) ^ k
    · rwa [if_pos ((below_ten_pow_iff hd).mpr below)]
    · rw [if_neg fun less => below ((below_ten_pow_iff hd).mp less)]
      exact ih (by simpa using below)

/-- In the range of numbers, a number of decimal digits reckoned from the binary ones is at most three too many. -/
theorem ten_pow_le_two_pow {l : Int} (least : -1100 ≤ l) (greatest : l ≤ 1100) :
    (10 : ℚ) ^ (l * 30103 / 100000 - 3) ≤ 2 ^ (l - 1) := by
  have all : (List.range 2201).all (fun i =>
      10 ^ (((i : Nat) - 1100 : Int) * 30103 / 100000 + 397).toNat * 2 ^ 1101 ≤ 10 ^ 400 * 2 ^ i) = true := by
    decide +kernel
  have here := of_decide_eq_true (List.all_eq_true.mp all (l + 1100).toNat (List.mem_range.mpr (by omega)))
  have natural : (((l + 1100).toNat : Int) - 1100) = l := by omega
  rw [natural] at here
  have real : (10 : ℚ) ^ (l * 30103 / 100000 + 397) * 2 ^ (1101 : Int) ≤ 10 ^ (400 : Int) * 2 ^ (l + 1100) := by
    rw [← Int.toNat_of_nonneg (show 0 ≤ l * 30103 / 100000 + 397 by omega),
      ← Int.toNat_of_nonneg (show 0 ≤ l + 1100 by omega)]
    simp only [zpow_natCast]
    exact_mod_cast here
  rw [show l * 30103 / 100000 - 3 = l * 30103 / 100000 + 397 - 400 by ring, zpow_sub₀ (by norm_num),
    show l - 1 = l + 1100 - 1101 by ring, zpow_sub₀ (by norm_num), div_le_div_iff₀ (by positivity) (by positivity)]
  linarith

/-- The magnitude of a number in range is not too large. -/
theorem magnitude_lower {num den : Nat} (hn : 0 < num) (hd : 0 < den)
    (least : (2 : ℚ) ^ (-1074 : Int) ≤ quotient num den) (greatest : quotient num den < (2 : ℚ) ^ (1024 : Int)) :
    (10 : ℚ) ^ (magnitude num den - 1) ≤ quotient num den := by
  obtain ⟨lower, upper⟩ := quotient_bounds hn hd
  have atLeast := (zpow_lt_zpow_iff_right₀ (by norm_num)).mp (least.trans_lt upper)
  have atMost := (zpow_lt_zpow_iff_right₀ (by norm_num)).mp (lower.trans greatest)
  refine magnitudeFrom_lower hd ?_ 6
  simp only [Int.ofNat_eq_natCast]
  rw [sub_sub]
  exact (ten_pow_le_two_pow (by omega) (by omega)).trans lower.le

theorem gridNeighbours_eq (num den : Nat) (scale : Int) :
    gridNeighbours num den scale =
      let (n, d) := divided 10 num den scale
      if nearest n d = n / d then [n / d, n / d + 1] else [n / d + 1, n / d] := rfl

/-- The first neighbour on a decimal grid is the nearest, so it is at most half a unit of it away. -/
theorem exists_near_on_grid {num den : Nat} (hn : 0 < num) (hd : 0 < den) (scale : Int) :
    ∃ near ∈ gridNeighbours num den scale,
      quotient num den - 10 ^ scale / 2 ≤ near * (10 : ℚ) ^ scale ∧
      near * (10 : ℚ) ^ scale ≤ quotient num den + 10 ^ scale / 2 := by
  have unit : (0 : ℚ) < 10 ^ scale := by positivity
  have positive := divided_pos scale (by norm_num : 0 < 10) hn hd
  have value : quotient (divided 10 num den scale).1 (divided 10 num den scale).2 = quotient num den / 10 ^ scale :=
    quotient_divided (by norm_num)
  obtain ⟨lower, upper⟩ := nearest_bounds positive.2
  rw [value] at lower upper
  refine ⟨nearest (divided 10 num den scale).1 (divided 10 num den scale).2, ?_, ?_, ?_⟩
  · rw [gridNeighbours_eq]
    simp only
    split
    · rename_i below
      simp [below]
    · rename_i above
      simp [(nearest_cases ..).resolve_left above]
  · rw [sub_le_iff_le_add, div_le_iff₀ unit] at lower
    linarith
  · rw [← sub_le_iff_le_add, le_div_iff₀ unit] at upper
    linarith

theorem ten_pow_le_of_length {n : Nat} (hn : 0 < n) :
    (10 : ℚ) ^ (((Nat.toDigits 10 n).length : Int) - 1) ≤ n ∧ (n : ℚ) < 10 ^ ((Nat.toDigits 10 n).length : Int) := by
  have some : 0 < (Nat.toDigits 10 n).length := Nat.length_toDigits_pos
  constructor
  · rw [show ((Nat.toDigits 10 n).length : Int) - 1 = ((Nat.toDigits 10 n).length - 1 : Nat) by omega, zpow_natCast]
    by_contra! less
    have less : n < 10 ^ ((Nat.toDigits 10 n).length - 1) := by exact_mod_cast less
    rcases Nat.eq_zero_or_pos ((Nat.toDigits 10 n).length - 1) with one | more
    · rw [one] at less
      omega
    · have := (Nat.length_toDigits_le_iff (by norm_num) more).mpr less
      omega
  · rw [zpow_natCast]
    exact_mod_cast (Nat.length_toDigits_le_iff (by norm_num) some).mp le_rfl

/-- A decimal within the range of numbers is rounded. -/
theorem ofDecimal_eq_ofFraction (negative : Bool) {digits : Nat} {scale : Int} (some : 0 < digits)
    (least : (10 : ℚ) ^ (-330 : Int) ≤ digits * 10 ^ scale) (greatest : digits * (10 : ℚ) ^ scale < 10 ^ (310 : Int)) :
    ∃ num den, 0 < num ∧ 0 < den ∧ quotient num den = digits * 10 ^ scale ∧
      ofDecimal negative digits scale = ofFraction negative num den := by
  obtain ⟨lower, upper⟩ := ten_pow_le_of_length some
  have unit : (0 : ℚ) < 10 ^ scale := by positivity
  have atMost : (10 : ℚ) ^ (((Nat.toDigits 10 digits).length : Int) - 1 + scale) < 10 ^ (310 : Int) := by
    rw [zpow_add₀ (by norm_num)]
    exact (mul_le_mul_of_nonneg_right lower unit.le).trans_lt greatest
  have atLeast : (10 : ℚ) ^ (-330 : Int) < 10 ^ (((Nat.toDigits 10 digits).length : Int) + scale) := by
    rw [zpow_add₀ (by norm_num)]
    exact least.trans_lt (mul_lt_mul_of_pos_right upper unit)
  rw [zpow_lt_zpow_iff_right₀ (by norm_num)] at atMost atLeast
  unfold ofDecimal
  simp only [Int.ofNat_eq_natCast]
  rw [if_neg some.ne', if_neg (by omega), if_neg (by omega)]
  split
  · rename_i up
    obtain ⟨n, rfl⟩ := Int.eq_ofNat_of_zero_le up
    refine ⟨_, _, ?_, ?_, ?_, rfl⟩
    · simp only [Nat.pow_eq]; positivity
    · norm_num
    · simp [quotient, Nat.pow_eq]
  · rename_i down
    obtain ⟨n, hn⟩ := Int.eq_ofNat_of_zero_le (by omega : 0 ≤ -scale)
    obtain rfl : scale = -(n : Int) := by omega
    refine ⟨_, _, some, ?_, ?_, rfl⟩
    · simp only [Nat.pow_eq]; positivity
    · simp [quotient, Nat.pow_eq, div_eq_mul_inv]

/-- All numbers lie well within the decimals that are rounded at all. -/
theorem range_in_decimals :
    (10 : ℚ) ^ (-330 : Int) ≤ 2 ^ (-1074 : Int) / 2 ∧ (2 : ℚ) ^ (1024 : Int) ≤ 10 ^ (310 : Int) := by
  have low : (2 : ℚ) ^ 1074 * 2 ≤ 10 ^ 330 := by exact_mod_cast (by decide +kernel : 2 ^ 1074 * 2 ≤ 10 ^ 330)
  have high : (2 : ℚ) ^ 1024 ≤ 10 ^ 310 := by exact_mod_cast (by decide +kernel : 2 ^ 1024 ≤ 10 ^ 310)
  refine ⟨?_, by exact_mod_cast high⟩
  rw [zpow_neg, zpow_neg, div_eq_mul_inv, ← mul_inv]
  exact inv_anti₀ (by positivity) (by exact_mod_cast low)

/-- What is next to a number in range lies in the range of decimals. -/
theorem range_of_isRounded {m : Nat} {e : Int} (rounded : (finite false m e).IsRounded) (some : 0 < m) :
    (2 : ℚ) ^ (-1074 : Int) ≤ m * 2 ^ e ∧ ((m : ℚ) + 1 / 2) * 2 ^ e < 2 ^ (1024 : Int) := by
  obtain ⟨least, greatest, room, _⟩ := rounded
  have unit : (0 : ℚ) < 2 ^ e := by positivity
  have low : (2 : ℚ) ^ (-1074 : Int) ≤ 2 ^ e := (zpow_le_zpow_iff_right₀ (by norm_num)).mpr least
  have high : (2 : ℚ) ^ (53 + e) ≤ 2 ^ (1024 : Int) := by
    refine (zpow_le_zpow_iff_right₀ (by norm_num)).mpr ?_
    unfold greatestExponent at greatest
    omega
  have atLeast : (1 : ℚ) ≤ m := by exact_mod_cast some
  have atMost : (m : ℚ) + 1 ≤ 2 ^ 53 := by exact_mod_cast room
  constructor
  · nlinarith
  · refine lt_of_lt_of_le ?_ high
    rw [zpow_add₀ (by norm_num)]
    refine mul_lt_mul_of_pos_right ?_ unit
    norm_num at atMost ⊢
    linarith

/-- A decimal is read as the number that it is near to. -/
theorem ofDecimal_of_near {negative : Bool} {digits m : Nat} {scale e : Int}
    (rounded : (finite false m e).IsRounded) (some : 0 < m)
    (lower : ((m : ℚ) - 1 / 2) * 2 ^ e < digits * 10 ^ scale) (upper : digits * (10 : ℚ) ^ scale < (m + 1 / 2) * 2 ^ e)
    (edge : m = 2 ^ 52 → ((m : ℚ) - 1 / 4) * 2 ^ e < digits * 10 ^ scale) :
    ofDecimal negative digits scale = .finite negative m e := by
  have unit : (0 : ℚ) < 2 ^ e := by positivity
  obtain ⟨least, greatest⟩ := range_of_isRounded rounded some
  have half : (m : ℚ) * 2 ^ e / 2 ≤ ((m : ℚ) - 1 / 2) * 2 ^ e := by
    have : (1 : ℚ) ≤ m := by exact_mod_cast some
    nlinarith
  have positive : 0 < digits := by
    by_contra none
    rw [Nat.eq_zero_of_not_pos none, Nat.cast_zero, zero_mul] at lower
    have : (0 : ℚ) < m * 2 ^ e := by positivity
    linarith
  have atLeast : (10 : ℚ) ^ (-330 : Int) ≤ digits * 10 ^ scale := by
    have := range_in_decimals.1
    linarith
  have atMost : digits * (10 : ℚ) ^ scale < 10 ^ (310 : Int) := (upper.trans greatest).trans_le range_in_decimals.2
  obtain ⟨num, den, hn, hd, value, asFraction⟩ := ofDecimal_eq_ofFraction negative positive atLeast atMost
  rw [asFraction]
  rw [← value] at lower upper edge
  exact ofFraction_of_near hn hd (fitsAt_of_isRounded rounded) rounded.2.1 lower upper edge

/-- Digits are found that read back, if there are some at a later count. -/
theorem shortestFrom_of_reads {x : Binary64} {num den : Nat} {k : Int} {count steps last : Nat}
    (reads : ∃ digits ∈ gridNeighbours num den (k - last), ofDecimal false digits (k - last) = x)
    (first : count ≤ last) (enough : last < count + steps) :
    ofDecimal false (shortestFrom x num den k count steps).1 (shortestFrom x num den k count steps).2 = x := by
  induction steps generalizing count with
  | zero => omega
  | succ steps ih =>
    rw [shortestFrom]
    split
    · rename_i digits found
      simpa using List.find?_some found
    · rename_i none
      refine ih (Nat.lt_of_le_of_ne first ?_) (by omega)
      rintro rfl
      obtain ⟨digits, member, same⟩ := reads
      have := List.find?_eq_none.mp none digits member
      simp [same] at this

/-- The shortest decimal of a number is read as that number: the nearest one of seventeen digits is near enough. -/
theorem ofDecimal_shortest {m : Nat} {e : Int} (rounded : (finite false m e).IsRounded) (some : 0 < m) :
    ofDecimal false (shortest m e).1 (shortest m e).2 = finite false m e := by
  have unit : (0 : ℚ) < 2 ^ e := by positivity
  have positive := scaleDown_pos (-e) some one_pos
  have value : quotient (scaleDown m 1 (-e)).1 (scaleDown m 1 (-e)).2 = m * 2 ^ e := by
    rw [quotient_scaleDown]
    simp [quotient]
  obtain ⟨least, greatest⟩ := range_of_isRounded rounded some
  have lead := magnitude_lower positive.1 positive.2 (by rwa [value]) (by rw [value]; linarith)
  obtain ⟨near, member, lower, upper⟩ := exists_near_on_grid positive.1 positive.2
    (magnitude (scaleDown m 1 (-e)).1 (scaleDown m 1 (-e)).2 - (17 : Nat))
  rw [value] at lower upper lead
  have grid :
      (10 : ℚ) ^ (magnitude (scaleDown m 1 (-e)).1 (scaleDown m 1 (-e)).2 - (17 : Nat)) * 10 ^ 16 ≤ m * 2 ^ e := by
    refine le_of_eq_of_le ?_ lead
    rw [← zpow_natCast, ← zpow_add₀ (by norm_num)]
    congr 1
    omega
  have room : (m : ℚ) * 2 ^ e ≤ 2 ^ 53 * 2 ^ e := by
    have : (m : ℚ) ≤ 2 ^ 53 := by exact_mod_cast rounded.2.2.1.le
    gcongr
  have reads : ofDecimal false near (magnitude (scaleDown m 1 (-e)).1 (scaleDown m 1 (-e)).2 - (17 : Nat)) =
      finite false m e := by
    generalize magnitude (scaleDown m 1 (-e)).1 (scaleDown m 1 (-e)).2 - (17 : Nat) = scale at lower upper grid ⊢
    refine ofDecimal_of_near rounded some ?_ ?_ fun edge => ?_
    · linarith
    · linarith
    · rw [edge] at lower grid ⊢
      push_cast at lower grid ⊢
      linarith
  exact shortestFrom_of_reads ⟨near, member, reads⟩ (by norm_num) (by norm_num)

end AccessPolicy.Binary64
