import AccessPolicy.Decimal.Binary64

namespace AccessPolicy.Binary64

/-- The least `k` up to the bound with `num / den < 10 ^ k`, or the bound. -/
def magnitudeFrom (num den : Nat) (k : Int) : Nat → Int
  | 0 => k
  | steps + 1 =>
    let below := if 0 ≤ k then num < den * Nat.pow 10 k.toNat else num * Nat.pow 10 (-k).toNat < den
    if below then k else magnitudeFrom num den (k + 1) steps

/-- The decimal exponent `k` of a positive fraction: it lies below `10 ^ k` but not below `10 ^ (k - 1)`. -/
def magnitude (num den : Nat) : Int :=
  let guess := (Int.ofNat num.log2 - Int.ofNat den.log2) * 30103 / 100000
  magnitudeFrom num den (guess - 2) 6

/-- The multiples of `10 ^ scale` on both sides of a fraction, the nearer first. -/
def gridNeighbours (num den : Nat) (scale : Int) : List Nat :=
  let (n, d) := if 0 ≤ scale then (num, den * Nat.pow 10 scale.toNat) else (num * Nat.pow 10 (-scale).toNat, den)
  let below := n / d
  if nearest n d = below then [below, below + 1] else [below + 1, below]

/-- The first count of digits, from `count` on, at which a neighbour reads back. -/
def shortestFrom (x : Binary64) (num den : Nat) (k : Int) (count : Nat) : Nat → Nat × Int
  | 0 => (num, 0)
  | steps + 1 =>
    let scale := k - Int.ofNat count
    match (gridNeighbours num den scale).find? fun digits => ofDecimal false digits scale = x with
    | some digits => (digits, scale)
    | none => shortestFrom x num den k (count + 1) steps

/-- Digits and scale of the shortest decimal of `mantissa · 2 ^ exponent`: the fewest digits that read back as the same
number, and of those the nearest to it. Seventeen digits always suffice. -/
def shortest (mantissa : Nat) (exponent : Int) : Nat × Int :=
  let (n, d) := scaleDown mantissa 1 (-exponent)
  shortestFrom (.finite false mantissa exponent) n d (magnitude n d) 1 17

/-- How decimals are written: without an exponent while the point stands at most this far right or left of the
first digit, else with an exponent of at least two digits. -/
structure Layout where
  farRight : Int
  farLeft : Int

/-- A point is written up to sixteen digits, and for numbers from one ten-thousandth on. -/
def layout : Layout := ⟨16, -3⟩

/-- An exponent with its sign and at least two digits. -/
def exponentText (e : Int) : List Char :=
  let digits := Nat.toDigits 10 e.natAbs
  (if e < 0 then '-' else '+') :: List.replicate (2 - digits.length) '0' ++ digits

/-- Digits with a decimal point after the first `point` of them. -/
def decimalText (digits : List Char) (point : Int) : List Char :=
  if layout.farLeft ≤ point ∧ point ≤ layout.farRight then
    if point ≤ 0 then '0' :: '.' :: List.replicate (-point).toNat '0' ++ digits
    else if digits.length ≤ point.toNat then
      digits ++ List.replicate (point.toNat - digits.length) '0' ++ ['.', '0']
    else digits.take point.toNat ++ '.' :: digits.drop point.toNat
  else
    let tail := if digits.length ≤ 1 then [] else '.' :: digits.drop 1
    digits.take 1 ++ tail ++ 'e' :: exponentText (point - 1)

/-- The text of a number. -/
def text : Binary64 → String
  | .nan _ => "nan"
  | .infinite negative => if negative then "-inf" else "inf"
  | .finite negative mantissa exponent =>
    let body :=
      if mantissa = 0 then ['0', '.', '0']
      else
        let (digits, scale) := shortest mantissa exponent
        let chars := Nat.toDigits 10 digits
        let significant := (chars.reverse.dropWhile (· == '0')).reverse
        decimalText significant (Int.ofNat chars.length + scale)
    String.ofList (if negative then '-' :: body else body)

end AccessPolicy.Binary64
