namespace AccessPolicy

/-- A number `± mantissa · 2 ^ exponent`, an infinity, or no number at all. Rounding yields a mantissa of 53
bits, or fewer when the exponent is the least one, so each value has one form. What is no number is the same as nothing
but itself, so it is told which object it is: the one that all uses share, or one of those with a number each. -/
inductive Binary64 where
  | finite (negative : Bool) (mantissa : Nat) (exponent : Int)
  | infinite (negative : Bool)
  | nan (object : Option Nat)
deriving DecidableEq, Repr

namespace Binary64

/-- The exponent of the smallest numbers. -/
def leastExponent : Int := -1074

/-- The exponent of the largest numbers. -/
def greatestExponent : Int := 971

/-- Nought, with a sign. -/
def nought (negative : Bool) : Binary64 :=
  .finite negative 0 leastExponent

/-- The whole number nearest to a fraction, a tie going to the even one. -/
def nearest (num den : Nat) : Nat :=
  let q := num / den
  let twice := 2 * (num % den)
  if den < twice || (twice == den && q % 2 == 1) then q + 1 else q

/-- A fraction divided by a power of two, as numerator and denominator. -/
def scaleDown (num den : Nat) (power : Int) : Nat × Nat :=
  if 0 ≤ power then (num, den * Nat.pow 2 power.toNat) else (num * Nat.pow 2 (-power).toNat, den)

/-- The exponent at which a positive fraction has a mantissa of 53 bits, if there is room for it. -/
def exponentFor (num den : Nat) : Int :=
  let guess := max (Int.ofNat num.log2 - Int.ofNat den.log2 - 53) leastExponent
  let (n, d) := scaleDown num den guess
  if Nat.pow 2 53 ≤ n / d then guess + 1 else guess

/-- The number nearest to a fraction with positive denominator. -/
def ofFraction (negative : Bool) (num den : Nat) : Binary64 :=
  if num = 0 then nought negative
  else
    let exponent := exponentFor num den
    let (n, d) := scaleDown num den exponent
    let mantissa := nearest n d
    let (mantissa, exponent) :=
      if mantissa = Nat.pow 2 53 then (Nat.pow 2 52, exponent + 1) else (mantissa, exponent)
    if greatestExponent < exponent then .infinite negative else .finite negative mantissa exponent

/-- The number nearest to `digits · 10 ^ scale`. Scales far beyond the range are settled at once. -/
def ofDecimal (negative : Bool) (digits : Nat) (scale : Int) : Binary64 :=
  let width := Int.ofNat (Nat.toDigits 10 digits).length
  if digits = 0 then nought negative
  else if 310 < width + scale then .infinite negative
  else if width + scale < -330 then nought negative
  else if 0 ≤ scale then ofFraction negative (digits * Nat.pow 10 scale.toNat) 1
  else ofFraction negative digits (Nat.pow 10 (-scale).toNat)

/-- The number nearest to a whole number, or none when it is beyond all of them. -/
def ofNat? (n : Nat) : Option Binary64 :=
  match ofFraction false n 1 with
  | .infinite _ => none
  | x => some x

/-- A signed fraction with a power of two as denominator: what a finite number is worth. -/
def fraction (negative : Bool) (mantissa : Nat) (exponent : Int) : Int × Nat :=
  let (n, d) := if 0 ≤ exponent then (mantissa * Nat.pow 2 exponent.toNat, 1)
    else (mantissa, Nat.pow 2 (-exponent).toNat)
  (if negative then -(Int.ofNat n) else Int.ofNat n, d)

/-- An object that is no number, just made. -/
def noNumber : Binary64 :=
  .nan (some 0)

/-- The number with the other sign. -/
def neg : Binary64 → Binary64
  | .finite negative mantissa exponent => .finite (!negative) mantissa exponent
  | .infinite negative => .infinite (!negative)
  | .nan _ => noNumber

/-- The rounded product. -/
def mul : Binary64 → Binary64 → Binary64
  | .finite s m e, .finite s' m' e' =>
    let (n, d) := scaleDown (m * m') 1 (-(e + e'))
    ofFraction (s != s') n d
  | .infinite s, .infinite s' => .infinite (s != s')
  | .infinite s, .finite s' m _ => if m = 0 then noNumber else .infinite (s != s')
  | .finite s m _, .infinite s' => if m = 0 then noNumber else .infinite (s != s')
  | _, _ => noNumber

/-- The rounded sum. A sum of nought is positive unless both parts are negative. -/
def add : Binary64 → Binary64 → Binary64
  | .finite s m e, .finite s' m' e' =>
    let (n, d) := fraction s m e
    let (n', d') := fraction s' m' e'
    let total := n * d' + n' * d
    if total = 0 then nought (s && s') else ofFraction (total < 0) total.natAbs (d * d')
  | .infinite s, .infinite s' => if s = s' then .infinite s else noNumber
  | .infinite s, .finite .. => .infinite s
  | .finite .., .infinite s => .infinite s
  | _, _ => noNumber

end Binary64

end AccessPolicy
