import AccessPolicy.Text.Quoted

namespace AccessPolicy.Text

/-- Why bytes are not UTF-8. -/
inductive Utf8Reason where
  | start
  | continuation
  | ending
deriving DecidableEq, Repr

/-- Bytes that are not UTF-8: `count` of them at `position`, the first being `byte`. -/
structure Utf8Fault where
  position : Nat
  count : Nat
  byte : UInt8
  reason : Utf8Reason
deriving DecidableEq, Repr

/-- The wording of a reason. -/
def Utf8Reason.message : Utf8Reason → String
  | .start => "invalid start byte"
  | .continuation => "invalid continuation byte"
  | .ending => "unexpected end of data"

/-- What is said of bytes that are not UTF-8. -/
def Utf8Fault.message (f : Utf8Fault) : String :=
  let place :=
    if f.count = 1 then s!"byte 0x{String.ofList (hex 2 f.byte.toNat)} in position {f.position}"
    else s!"bytes in position {f.position}-{f.position + f.count - 1}"
  s!"'utf-8' codec can't decode {place}: {f.reason.message}"

/-- One step of reading: a character of some bytes, the length of a broken sequence, or a sequence that stops
short. -/
inductive Utf8Step where
  | char (c : Char) (size : Nat)
  | broken (count : Nat) (reason : Utf8Reason)
  | short
deriving DecidableEq, Repr

/-- Whether a byte continues a sequence. -/
def isContinuation (b : Nat) : Bool :=
  0x80 ≤ b && b < 0xC0

/-- Whether a second byte may follow the first byte of a sequence of three or four. -/
def isSecond (first second : Nat) : Bool :=
  isContinuation second &&
    (if first = 0xE0 then 0xA0 ≤ second
     else if first = 0xED then second < 0xA0
     else if first = 0xF0 then 0x90 ≤ second
     else if first = 0xF4 then second < 0x90
     else true)

/-- The number that the low six bits of continuation bytes add to. -/
def joinBits (lead : Nat) (rest : List Nat) : Char :=
  Char.ofNat (rest.foldl (fun n b => n * 64 + b % 64) lead)

/-- Reads the sequence that starts with the given byte. Overlong forms, surrogates and code points beyond the last one are
broken. -/
def utf8Step (first : Nat) (rest : List Nat) : Utf8Step :=
  if first < 0x80 then .char (Char.ofNat first) 1
  else if first < 0xC2 then .broken 1 .start
  else if first < 0xE0 then
    match rest with
    | [] => .short
    | b :: _ => if isContinuation b then .char (joinBits (first % 32) [b]) 2 else .broken 1 .continuation
  else if first < 0xF0 then
    match rest with
    | [] => .short
    | [b] => if isSecond first b then .short else .broken 1 .continuation
    | b :: c :: _ =>
      if !isSecond first b then .broken 1 .continuation
      else if !isContinuation c then .broken 2 .continuation
      else .char (joinBits (first % 16) [b, c]) 3
  else if first < 0xF5 then
    match rest with
    | [] => .short
    | [b] => if isSecond first b then .short else .broken 1 .continuation
    | [b, c] =>
      if !isSecond first b then .broken 1 .continuation
      else if !isContinuation c then .broken 2 .continuation
      else .short
    | b :: c :: d :: _ =>
      if !isSecond first b then .broken 1 .continuation
      else if !isContinuation c then .broken 2 .continuation
      else if !isContinuation d then .broken 3 .continuation
      else .char (joinBits (first % 8) [b, c, d]) 4
  else .broken 1 .start

/-- Reads bytes from a position on, with what has been read so far in reverse. The result holds the bytes of a
last sequence that stops short. -/
def readUtf8 (position : Nat) (read : List Char) :
    Nat → List UInt8 → Except Utf8Fault (List Char × List UInt8)
  | _, [] => .ok (read.reverse, [])
  | 0, rest => .ok (read.reverse, rest)
  | steps + 1, b :: rest =>
    match utf8Step b.toNat (rest.take 3 |>.map UInt8.toNat) with
    | .char c size => readUtf8 (position + size) (c :: read) steps (rest.drop (size - 1))
    | .broken count reason => .error ⟨position, count, b, reason⟩
    | .short => .ok (read.reverse, b :: rest)

/-- The characters of bytes, and the bytes of a last sequence that stops short. -/
def decodePart (bytes : List UInt8) : Except Utf8Fault (List Char × List UInt8) :=
  readUtf8 0 [] bytes.length bytes

/-- The characters of bytes, all of which have to be there. -/
def decode (bytes : List UInt8) : Except Utf8Fault (List Char) := do
  match ← decodePart bytes with
  | (chars, []) => return chars
  | (_, b :: short) => throw ⟨bytes.length - (short.length + 1), short.length + 1, b, .ending⟩

/-- The bytes of a text. -/
def encode (s : List Char) : List UInt8 :=
  (String.ofList s).toUTF8.toList

end AccessPolicy.Text
