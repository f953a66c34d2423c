import AccessPolicy.Decimal.Binary64
import Mathlib.Algebra.Order.Field.Power
import Mathlib.Data.Rat.Cast.Order
import Mathlib.Tactic.FieldSimp
import Mathlib.Tactic.GCongr
import Mathlib.Tactic.Linarith
import Mathlib.Tactic.NormNum
import Mathlib.Tactic.Positivity
import Mathlib.Tactic.Ring
import Mathlib.Tactic.SplitIfs

namespace AccessPolicy.Binary64

/-- What a fraction is worth. -/
def quotient (num den : Nat) : ℚ := num / den

/-- A fraction divided by a power of a base, as numerator and denominator. -/
def divided (base num den : Nat) (power : Int) : Nat × Nat :=
  if 0 ≤ power then (num, den * Nat.pow base power.toNat) else (num * Nat.pow base (-power).toNat, den)

theorem divided_pos {base num den : Nat} (power : Int) (hb : 0 < base) (hn : 0 < num) (hd : 0 < den) :
    0 < (divided base num den power).1 ∧ 0 < (divided base num den power).2 := by
  unfold divided
  split <;> simp only [Nat.pow_eq] <;> constructor <;> positivity

theorem quotient_divided {base num den : Nat} {power : Int} (hb : 0 < base) :
    quotient (divided base num den power).1 (divided base num den power).2 = quotient num den / (base : ℚ) ^ power := by
  have bpos : (base : ℚ) ≠ 0 := by positivity
  unfold divided quotient
  split
  · rename_i up
    obtain ⟨n, rfl⟩ := Int.eq_ofNat_of_zero_le up
    simp [Nat.pow_eq, div_div]
  · rename_i down
    obtain ⟨n, hn⟩ := Int.eq_ofNat_of_zero_le (by omega : 0 ≤ -power)
    obtain rfl : power = -(n : Int) := by omega
    simp only [neg_neg, Int.toNat_natCast, Nat.pow_eq, Nat.cast_mul, Nat.cast_pow, zpow_neg, zpow_natCast]
    field_simp

theorem scaleDown_pos {num den : Nat} (power : Int) (hn : 0 < num) (hd : 0 < den) :
    0 < (scaleDown num den power).1 ∧ 0 < (scaleDown num den power).2 :=
  divided_pos power (by norm_num) hn hd

theorem quotient_scaleDown {num den : Nat} {power : Int} :
    quotient (scaleDown num den power).1 (scaleDown num den power).2 = quotient num den / 2 ^ power :=
  quotient_divided (by norm_num)

theorem le_div_iff_quotient {num den k : Nat} (hd : 0 < den) : k ≤ num / den ↔ (k : ℚ) ≤ quotient num den := by
  rw [Nat.le_div_iff_mul_le hd, quotient, le_div_iff₀ (by positivity)]
  norm_cast

theorem quotient_bounds {num den : Nat} (hn : 0 < num) (hd : 0 < den) :
    (2 : ℚ) ^ ((num.log2 : Int) - den.log2 - 1) < quotient num den ∧
      quotient num den < (2 : ℚ) ^ ((num.log2 : Int) - den.log2 + 1) := by
  have n1 : ((2 : ℚ) ^ num.log2) ≤ num := by exact_mod_cast Nat.log2_self_le hn.ne'
  have n2 : (num : ℚ) < 2 ^ (num.log2 + 1) := by exact_mod_cast Nat.lt_log2_self
  have d1 : ((2 : ℚ) ^ den.log2) ≤ den := by exact_mod_cast Nat.log2_self_le hd.ne'
  have d2 : (den : ℚ) < 2 ^ (den.log2 + 1) := by exact_mod_cast Nat.lt_log2_self
  have dpos : (0 : ℚ) < den := by exact_mod_cast hd
  unfold quotient
  constructor
  · rw [lt_div_iff₀ dpos]
    calc (2 : ℚ) ^ ((num.log2 : Int) - den.log2 - 1) * den
        < 2 ^ ((num.log2 : Int) - den.log2 - 1) * 2 ^ (den.log2 + 1) := by gcongr
      _ = 2 ^ num.log2 := by
        rw [← zpow_natCast, ← zpow_add₀ (by norm_num), ← zpow_natCast]
        congr 1
        push_cast
        ring
      _ ≤ num := n1
  · rw [div_lt_iff₀ dpos]
    calc (num : ℚ) < 2 ^ (num.log2 + 1) := n2
      _ = 2 ^ ((num.log2 : Int) - den.log2 + 1) * 2 ^ den.log2 := by
        rw [← zpow_natCast, ← zpow_natCast, ← zpow_add₀ (by norm_num)]
        congr 1
        push_cast
        ring
      _ ≤ _ := by gcongr

theorem nearest_cases (num den : Nat) : nearest num den = num / den ∨ nearest num den = num / den + 1 := by
  unfold nearest
  simp only
  split
  · exact Or.inr rfl
  · exact Or.inl rfl

/-- The nearest whole number is at most a half away. -/
theorem nearest_bounds {num den : Nat} (hd : 0 < den) :
    quotient num den - 1 / 2 ≤ nearest num den ∧ (nearest num den : ℚ) ≤ quotient num den + 1 / 2 := by
  have dpos : (0 : ℚ) < den := by exact_mod_cast hd
  rw [quotient, sub_le_iff_le_add, div_le_iff₀ dpos, ← sub_le_iff_le_add, le_div_iff₀ dpos]
  have parts : (num : ℚ) = den * (num / den : Nat) + (num % den : Nat) := by
    exact_mod_cast (Nat.div_add_mod num den).symm
  have small : ((num % den : Nat) : ℚ) < den := by exact_mod_cast Nat.mod_lt num hd
  have least : (0 : ℚ) ≤ (num % den : Nat) := by positivity
  unfold nearest
  simp only [Bool.or_eq_true, decide_eq_true_eq, Bool.and_eq_true, beq_iff_eq]
  split
  · rename_i more
    have more : (den : ℚ) ≤ 2 * (num % den : Nat) := by exact_mod_cast (show den ≤ 2 * (num % den) by omega)
    push_cast
    constructor <;> linarith
  · rename_i less
    have less : 2 * ((num % den : Nat) : ℚ) ≤ den := by exact_mod_cast (show 2 * (num % den) ≤ den by omega)
    constructor <;> linarith

/-- Whether a value has room for its mantissa at an exponent, and fills it unless the exponent is the least. -/
def FitsAt (v : ℚ) (e : Int) : Prop :=
  leastExponent ≤ e ∧ v < 2 ^ (53 + e) ∧ (leastExponent < e → 2 ^ (52 + e) ≤ v)

theorem FitsAt.le {v : ℚ} {e e' : Int} (fits : FitsAt v e) (fits' : FitsAt v e') : e ≤ e' := by
  by_contra! more
  have between : (2 : ℚ) ^ (52 + e) < 2 ^ (53 + e') := (fits.2.2 (by have := fits'.1; omega)).trans_lt fits'.2.1
  have := (zpow_lt_zpow_iff_right₀ (by norm_num)).mp between
  omega

theorem exponentFor_eq {num den : Nat} (hn : 0 < num) (hd : 0 < den) :
    exponentFor num den =
      let guess := max ((num.log2 : Int) - den.log2 - 53) leastExponent
      if (2 : ℚ) ^ (53 + guess) ≤ quotient num den then guess + 1 else guess := by
  simp only [exponentFor, Int.ofNat_eq_natCast]
  generalize max ((num.log2 : Int) - den.log2 - 53) leastExponent = guess
  have large : Nat.pow 2 53 ≤ (scaleDown num den guess).1 / (scaleDown num den guess).2 ↔
      (2 : ℚ) ^ (53 + guess) ≤ quotient num den := by
    rw [le_div_iff_quotient (scaleDown_pos _ hn hd).2, quotient_scaleDown, le_div_iff₀ (by positivity),
      zpow_add₀ (by norm_num)]
    norm_num
  simp only [large]

theorem fitsAt_exponentFor {num den : Nat} (hn : 0 < num) (hd : 0 < den) :
    FitsAt (quotient num den) (exponentFor num den) := by
  obtain ⟨lower, upper⟩ := quotient_bounds hn hd
  rw [exponentFor_eq hn hd]
  simp only
  split
  · rename_i large
    refine ⟨by omega, upper.trans_le ((zpow_le_zpow_iff_right₀ (by norm_num)).mpr (by omega)), fun _ => ?_⟩
    rwa [add_comm _ 1, ← add_assoc]
  · rename_i small
    refine ⟨by omega, not_le.mp small, fun more => ?_⟩
    refine ((zpow_le_zpow_iff_right₀ (by norm_num)).mpr (by omega)).trans lower.le

theorem exponentFor_eq_of_fitsAt {num den : Nat} {e : Int} (hn : 0 < num) (hd : 0 < den)
    (fits : FitsAt (quotient num den) e) : exponentFor num den = e :=
  le_antisymm ((fitsAt_exponentFor hn hd).le fits) (fits.le (fitsAt_exponentFor hn hd))

theorem nearest_of_near {num den m : Nat} (hd : 0 < den) (lower : (m : ℚ) - 1 / 2 < quotient num den)
    (upper : quotient num den < m + 1 / 2) : nearest num den = m := by
  have dpos : (0 : ℚ) < den := by exact_mod_cast hd
  rw [quotient, lt_div_iff₀ dpos] at lower
  rw [quotient, div_lt_iff₀ dpos] at upper
  have lower' : 2 * m * den < 2 * num + den := by
    have : 2 * (m : ℚ) * den < 2 * num + den := by linarith
    exact_mod_cast this
  have upper' : 2 * num < 2 * m * den + den := by
    have : 2 * (num : ℚ) < 2 * m * den + den := by linarith
    exact_mod_cast this
  unfold nearest
  simp only [Bool.or_eq_true, decide_eq_true_eq, Bool.and_eq_true, beq_iff_eq]
  have split := Nat.div_add_mod num den
  have small := Nat.mod_lt num hd
  generalize num / den = q at *
  generalize num % den = r at *
  subst split
  have atMost : q ≤ m := by
    by_contra! less
    have := Nat.mul_le_mul_right den (Nat.succ_le_of_lt less)
    grind
  have atLeast : m ≤ q + 1 := by
    by_contra! more
    have := Nat.mul_le_mul_right den (Nat.succ_le_of_lt more)
    grind
  obtain rfl | rfl : m = q ∨ m = q + 1 := by omega
  · rw [if_neg]
    grind
  · rw [if_pos]
    grind

theorem ofFraction_of_exponent {negative : Bool} {num den mantissa : Nat} {e : Int} (hn : 0 < num) (hd : 0 < den)
    (fits : FitsAt (quotient num den) e) (lower : ((mantissa : ℚ) - 1 / 2) * 2 ^ e < quotient num den)
    (upper : quotient num den < (mantissa + 1 / 2) * 2 ^ e) :
    ofFraction negative num den =
      if mantissa = 2 ^ 53 then
        if greatestExponent < e + 1 then .infinite negative else .finite negative (2 ^ 52) (e + 1)
      else if greatestExponent < e then .infinite negative else .finite negative mantissa e := by
  have scale : (0 : ℚ) < 2 ^ e := by positivity
  have rounded : nearest (scaleDown num den e).1 (scaleDown num den e).2 = mantissa := by
    refine nearest_of_near (scaleDown_pos e hn hd).2 ?_ ?_ <;> rw [quotient_scaleDown]
    · rwa [lt_div_iff₀ scale]
    · rwa [div_lt_iff₀ scale]
  rw [ofFraction, if_neg hn.ne']
  simp only [exponentFor_eq_of_fitsAt hn hd fits, rounded, Nat.pow_eq]
  split <;> rfl

/-- Rounding a fraction gives the number that the fraction is near to: by half a unit of its last place, and by a
quarter below a power of two, where the numbers lie closer. -/
theorem ofFraction_of_near {negative : Bool} {num den m : Nat} {e : Int} (hn : 0 < num) (hd : 0 < den)
    (form : FitsAt (m * 2 ^ e) e) (range : e ≤ greatestExponent)
    (lower : ((m : ℚ) - 1 / 2) * 2 ^ e < quotient num den) (upper : quotient num den < (m + 1 / 2) * 2 ^ e)
    (edge : m = 2 ^ 52 → ((m : ℚ) - 1 / 4) * 2 ^ e < quotient num den) :
    ofFraction negative num den = .finite negative m e := by
  have scale : (0 : ℚ) < 2 ^ e := by positivity
  obtain ⟨least, room, filled⟩ := form
  rw [zpow_add₀ (by norm_num), mul_lt_mul_iff_left₀ scale] at room
  have room : m < 2 ^ 53 := by exact_mod_cast room
  have above : quotient num den < 2 ^ (53 + e) := by
    rw [zpow_add₀ (by norm_num)]
    have : (m : ℚ) + 1 ≤ 2 ^ 53 := by exact_mod_cast room
    refine upper.trans_le (mul_le_mul_of_nonneg_right ?_ scale.le)
    norm_num at this ⊢
    linarith
  by_cases fits : leastExponent < e → (2 : ℚ) ^ (52 + e) ≤ quotient num den
  · rw [ofFraction_of_exponent hn hd ⟨least, above, fits⟩ lower upper, if_neg (by omega), if_neg (by omega)]
  · -- below a power of two the fraction has the next lower exponent, and is rounded up to the power
    rw [Classical.not_imp, not_le] at fits
    obtain ⟨more, below⟩ := fits
    have filled := filled more
    rw [zpow_add₀ (by norm_num)] at below filled
    rw [mul_le_mul_iff_left₀ scale] at filled
    have power : m = 2 ^ 52 := by
      have atMost := lt_of_mul_lt_mul_right (lower.trans below) scale.le
      have atLeast : 2 ^ 52 ≤ m := by exact_mod_cast filled
      have : (m : ℚ) < 2 ^ 52 + 1 := by linarith
      have : m < 2 ^ 52 + 1 := by exact_mod_cast this
      omega
    have near := edge power
    rw [power] at near
    push_cast at near
    have half : (2 : ℚ) ^ (e - 1) = 2 ^ e / 2 := zpow_sub_one₀ (by norm_num) e
    have top : (2 : ℚ) ^ (53 + (e - 1)) = 2 ^ 52 * 2 ^ e := by
      rw [zpow_add₀ (by norm_num), half]
      ring
    have bottom : (2 : ℚ) ^ (52 + (e - 1)) = 2 ^ 51 * 2 ^ e := by
      rw [zpow_add₀ (by norm_num), half]
      ring
    have fits : FitsAt (quotient num den) (e - 1) :=
      ⟨by omega, by rwa [top], fun _ => by rw [bottom]; linarith⟩
    have rounded := @ofFraction_of_exponent negative num den (2 ^ 53) (e - 1) hn hd fits
      (by rw [half]; push_cast; linarith) (by rw [half]; push_cast; linarith)
    rw [rounded, if_pos rfl, sub_add_cancel, if_neg (by omega), power]

theorem nearest_mul {num den c : Nat} (positive : 0 < c) : nearest (num * c) (den * c) = nearest num den := by
  unfold nearest
  rw [Nat.mul_div_mul_right _ _ positive, Nat.mul_mod_mul_right, ← mul_assoc]
  simp only [Nat.mul_lt_mul_right positive, Bool.beq_eq_decide_eq, Nat.mul_left_inj positive.ne']

theorem scaleDown_mul (num den c : Nat) (power : Int) :
    scaleDown (num * c) (den * c) power =
      ((scaleDown num den power).1 * c, (scaleDown num den power).2 * c) := by
  unfold scaleDown
  split <;> simp only [mul_right_comm]

theorem quotient_mul {num den c : Nat} (positive : 0 < c) : quotient (num * c) (den * c) = quotient num den := by
  unfold quotient
  push_cast
  exact mul_div_mul_right _ _ (by positivity)

/-- Fractions that are worth the same are rounded alike. -/
theorem ofFraction_mul (negative : Bool) {num den c : Nat} (hn : 0 < num) (hd : 0 < den) (positive : 0 < c) :
    ofFraction negative (num * c) (den * c) = ofFraction negative num den := by
  have alike : exponentFor (num * c) (den * c) = exponentFor num den := by
    refine exponentFor_eq_of_fitsAt (by positivity) (by positivity) ?_
    rw [quotient_mul positive]
    exact fitsAt_exponentFor hn hd
  simp only [ofFraction, alike, scaleDown_mul, nearest_mul positive, mul_eq_zero, positive.ne', or_false]

/-- The sign is not looked at in rounding. -/
theorem ofFraction_sign {negative : Bool} {num den m : Nat} {e : Int}
    (rounded : ofFraction false num den = .finite false m e) : ofFraction negative num den = .finite negative m e := by
  rw [ofFraction] at rounded ⊢
  by_cases none : num = 0
  · rw [if_pos none] at rounded ⊢
    obtain ⟨rfl, rfl⟩ : 0 = m ∧ leastExponent = e := by simpa [nought] using rounded
    rfl
  · rw [if_neg none] at rounded ⊢
    revert rounded
    simp only
    split_ifs <;> simp

/-- Whether a number has the form that rounding gives: at most 53 bits, and no fewer unless the exponent is the
least. -/
def IsRounded : Binary64 → Prop
  | .finite _ m e => leastExponent ≤ e ∧ e ≤ greatestExponent ∧ m < 2 ^ 53 ∧ (2 ^ 52 ≤ m ∨ e = leastExponent)
  | _ => True

instance : DecidablePred IsRounded
  | .finite _ m e =>
    inferInstanceAs (Decidable (leastExponent ≤ e ∧ e ≤ greatestExponent ∧ m < 2 ^ 53 ∧
      (2 ^ 52 ≤ m ∨ e = leastExponent)))
  | .infinite _ => inferInstanceAs (Decidable True)
  | .nan _ => inferInstanceAs (Decidable True)

theorem fitsAt_of_isRounded {negative : Bool} {m : Nat} {e : Int} (rounded : (finite negative m e).IsRounded) :
    FitsAt (m * 2 ^ e) e := by
  obtain ⟨least, _, room, filled⟩ := rounded
  refine ⟨least, ?_, fun more => ?_⟩ <;> rw [zpow_add₀ (by norm_num)] <;> gcongr
  · exact_mod_cast room
  · exact_mod_cast filled.resolve_right more.ne'

theorem isRounded_nought (negative : Bool) : (nought negative).IsRounded :=
  ⟨le_rfl, by decide, by norm_num, Or.inr rfl⟩

/-- What rounding gives has the form that it is to have: a mantissa that is rounded up out of its room is the least one
of the next exponent. -/
theorem isRounded_ofFraction {num den : Nat} (hd : 0 < den) (negative : Bool) :
    (ofFraction negative num den).IsRounded := by
  rw [ofFraction]
  split
  · exact isRounded_nought negative
  · rename_i nonzero
    have hn := Nat.pos_of_ne_zero nonzero
    obtain ⟨least, room, filled⟩ := fitsAt_exponentFor hn hd
    generalize exponentFor num den = e at least room filled ⊢
    have unit : (0 : ℚ) < 2 ^ e := by positivity
    obtain ⟨lower, upper⟩ := nearest_bounds (scaleDown_pos e hn hd).2
    rw [quotient_scaleDown] at lower upper
    simp only
    generalize nearest (scaleDown num den e).1 (scaleDown num den e).2 = m at lower upper ⊢
    have atMost : m ≤ 2 ^ 53 := by
      rw [zpow_add₀ (by norm_num), ← div_lt_iff₀ unit, zpow_ofNat] at room
      have small : (m : ℚ) < 2 ^ 53 + 1 := by linarith
      exact Nat.lt_succ_iff.mp (by exact_mod_cast small)
    have atLeast : leastExponent < e → 2 ^ 52 ≤ m := by
      intro more
      have filled := filled more
      rw [zpow_add₀ (by norm_num), ← le_div_iff₀ unit, zpow_ofNat] at filled
      have large : (2 : ℚ) ^ 52 < m + 1 := by linarith
      exact Nat.lt_succ_iff.mp (by exact_mod_cast large)
    simp only [Nat.pow_eq]
    by_cases full : m = 2 ^ 53
    · simp only [if_pos full]
      split
      · trivial
      · exact ⟨by omega, by omega, by norm_num, Or.inl le_rfl⟩
    · simp only [if_neg full]
      split
      · trivial
      · exact ⟨least, by omega, by omega, least.lt_or_eq.imp atLeast Eq.symm⟩

theorem isRounded_ofDecimal (negative : Bool) (digits : Nat) (scale : Int) :
    (ofDecimal negative digits scale).IsRounded := by
  unfold ofDecimal
  simp only
  split_ifs
  · exact isRounded_nought negative
  · trivial
  · exact isRounded_nought negative
  · exact isRounded_ofFraction one_pos negative
  · exact isRounded_ofFraction (by simp only [Nat.pow_eq]; positivity) negative

theorem isRounded_neg {x : Binary64} (rounded : x.IsRounded) : x.neg.IsRounded := by
  cases x with
  | finite negative m e => exact rounded
  | infinite | nan => trivial

theorem isRounded_add (x y : Binary64) : (x.add y).IsRounded := by
  have positive (negative : Bool) (m : Nat) (e : Int) : 0 < (fraction negative m e).2 := by
    by_cases whole : 0 ≤ e <;> simp [fraction, whole]
  unfold add
  split
  · dsimp only
    split
    · exact isRounded_nought _
    · exact isRounded_ofFraction (Nat.mul_pos (positive ..) (positive ..)) _
  · split <;> trivial
  · trivial
  · trivial
  · trivial

end AccessPolicy.Binary64
