import AccessPolicy.Text.Ranges
import AccessPolicy.Decimal.Binary64

namespace AccessPolicy.Text

/-- The white space of ASCII. -/
def isAsciiBlank (c : Char) : Bool :=
  c == ' ' || (9 ≤ c.toNat && c.toNat ≤ 13)

/-- A text with digits of every script in ASCII, and blanks beyond ASCII as spaces. A text of ASCII alone stays
as it is, so its rarer controls do not count as blanks. -/
def foldDigits (s : List Char) : List Char :=
  if s.all (·.toNat < 128) then s
  else s.map fun c =>
    if c.toNat < 128 then c
    else if isBlank c then ' '
    else match digitValue? c with
      | some d => Char.ofNat (48 + d)
      | none => '?'

/-- A text in digits of ASCII, without the blanks at its ends. -/
def numeralBody (s : List Char) : List Char :=
  (((foldDigits s).dropWhile isAsciiBlank).reverse.dropWhile isAsciiBlank).reverse

/-- Splits a leading sign off; `true` means minus. -/
def takeSign : List Char → Bool × List Char
  | '-' :: rest => (true, rest)
  | '+' :: rest => (false, rest)
  | rest => (false, rest)

/-- The value of a digit in bases up to thirty-six. -/
def baseDigit? (c : Char) : Option Nat :=
  if '0' ≤ c && c ≤ '9' then some (c.toNat - 48)
  else if 'a' ≤ c && c ≤ 'z' then some (c.toNat - 87)
  else if 'A' ≤ c && c ≤ 'Z' then some (c.toNat - 55)
  else none

/-- The digits at the start of a text, each below the base, and what follows them. -/
def spanBaseDigits (base : Nat) : List Char → List Nat × List Char
  | [] => ([], [])
  | c :: rest =>
    match (baseDigit? c).filter (· < base) with
    | some d =>
      let (digits, rest) := spanBaseDigits base rest
      (d :: digits, rest)
    | none => ([], c :: rest)

/-- The number that digits denote in a base. -/
def ofBaseDigits (base : Nat) (digits : List Nat) : Nat :=
  digits.foldl (fun n d => n * base + d) 0

/-- Drops a mark such as `0x` that agrees with the base. -/
def dropBaseMark (base : Nat) : List Char → List Char
  | '0' :: mark :: rest =>
    if (base == 16 && (mark == 'x' || mark == 'X')) || (base == 8 && (mark == 'o' || mark == 'O'))
      || (base == 2 && (mark == 'b' || mark == 'B')) then rest
    else '0' :: mark :: rest
  | s => s

/-- Why a text is not read as a whole number. -/
inductive NumeralFault where
  | malformed
  | tooLong (digits : Nat)
deriving DecidableEq, Repr

/-- The longest decimal numeral that is read. -/
def longestDecimal : Nat := 4300

/-- What is said of a decimal numeral that is longer. -/
def tooLongText (digits : Nat) : String :=
  s!"Exceeds the limit ({longestDecimal} digits) for integer string conversion: value has {digits} digits; use sys.set_int_max_str_digits() to increase the limit"

/-- The whole number that a text denotes in a base. The digits are counted before what follows them is looked
at. -/
def readInt (base : Nat) (s : List Char) : Except NumeralFault Int :=
  let (negative, body) := takeSign (numeralBody s)
  let (digits, rest) := spanBaseDigits base (dropBaseMark base body)
  if base == 10 && longestDecimal < digits.length then .error (.tooLong digits.length)
  else if digits.isEmpty || !rest.isEmpty then .error .malformed
  else
    let n := Int.ofNat (ofBaseDigits base digits)
    .ok (if negative then -n else n)

/-- The exponent at the end of a decimal; nothing else may follow it. -/
def readExponent : List Char → Option Int
  | [] => some 0
  | e :: rest =>
    if e == 'e' || e == 'E' then
      let (negative, digits) := takeSign rest
      match spanBaseDigits 10 digits with
      | ([], _) | (_, _ :: _) => none
      | (ds, []) =>
        let n := Int.ofNat (ofBaseDigits 10 ds)
        some (if negative then -n else n)
    else none

/-- The number that a text denotes as a decimal with an optional point and exponent, or as the name of an
infinity or of no number. -/
def readFloat (s : List Char) : Option Binary64 :=
  let (negative, body) := takeSign (numeralBody s)
  let name := body.map Char.toLower
  if name == "inf".toList || name == "infinity".toList then some (.infinite negative)
  else if name == "nan".toList then some Binary64.noNumber
  else
    let (whole, rest) := spanBaseDigits 10 body
    let (fraction, rest) := match rest with
      | '.' :: rest => spanBaseDigits 10 rest
      | rest => ([], rest)
    let digits := whole ++ fraction
    if digits.isEmpty then none
    else (readExponent rest).map fun e => .ofDecimal negative (ofBaseDigits 10 digits) (e - fraction.length)

end AccessPolicy.Text
