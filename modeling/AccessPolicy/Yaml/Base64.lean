import AccessPolicy.Yaml.Fault

namespace AccessPolicy.Yaml.Base64

/-- The value of a character of the alphabet. -/
def digit? (c : Char) : Option Nat :=
  if 'A' ≤ c && c ≤ 'Z' then some (c.toNat - 65)
  else if 'a' ≤ c && c ≤ 'z' then some (c.toNat - 71)
  else if c.isDigit then some (c.toNat + 4)
  else if c == '+' then some 62
  else if c == '/' then some 63
  else none

/-- How far a text has been read: the bytes so far, the last one first, the digits of the open group, the bits
that its last digit left over, and the padding seen since. -/
structure Reader where
  bytes : List UInt8
  digits : Nat
  left : Nat
  pads : Nat

/-- Takes a digit. -/
def Reader.take (r : Reader) (d : Nat) : Reader :=
  match r.digits with
  | 0 => ⟨r.bytes, 1, d, 0⟩
  | 1 => ⟨UInt8.ofNat (r.left * 4 + d / 16) :: r.bytes, 2, d % 16, 0⟩
  | 2 => ⟨UInt8.ofNat (r.left * 16 + d / 4) :: r.bytes, 3, d % 4, 0⟩
  | _ => ⟨UInt8.ofNat (r.left * 64 + d) :: r.bytes, 0, 0, 0⟩

/-- Reads to the end, or to the padding that completes a group. -/
def readFrom (r : Reader) : List Char → Except Problem (List UInt8)
  | [] =>
    if r.digits = 0 then .ok r.bytes.reverse
    else if r.digits = 1 then .error (.brokenBase64 (r.bytes.length / 3 * 4 + 1))
    else .error .unpaddedBase64
  | c :: rest =>
    if c == '=' then
      if 2 ≤ r.digits then
        if 4 ≤ r.digits + (r.pads + 1) then .ok r.bytes.reverse
        else readFrom { r with pads := r.pads + 1 } rest
      else readFrom r rest
    else match digit? c with
      | some d => readFrom (r.take d) rest
      | none => readFrom r rest

/-- The first run of characters beyond ASCII: where it starts, how long it is, and its first character. -/
def beyondAscii? (s : List Char) : Option (Nat × Nat × Char) :=
  match s.dropWhile (·.toNat < 128) with
  | [] => none
  | c :: rest =>
    let before := (s.takeWhile (·.toNat < 128)).length
    some (before, 1 + (rest.takeWhile (128 ≤ ·.toNat)).length, c)

/-- The bytes that a text stands for. Characters outside the alphabet are passed over, and a group may end at its padding.
-/
def decode (s : List Char) : Except Problem (List UInt8) :=
  match beyondAscii? s with
  | some (position, count, first) => .error (.notAscii position count first)
  | none => readFrom ⟨[], 0, 0, 0⟩ s

end AccessPolicy.Yaml.Base64
