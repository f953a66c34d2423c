import AccessPolicy.Text.Printable

namespace AccessPolicy.Text

/-- The hexadecimal digits of a number, with leading noughts up to the given width. -/
def hex (width n : Nat) : List Char :=
  let digits := Nat.toDigits 16 n
  List.replicate (width - digits.length) '0' ++ digits

/-- The escape of a code point: two, four or eight hexadecimal digits, as many as it needs. -/
def codeEscape (n : Nat) : List Char :=
  if n < 0x100 then '\\' :: 'x' :: hex 2 n
  else if n < 0x10000 then '\\' :: 'u' :: hex 4 n
  else '\\' :: 'U' :: hex 8 n

/-- The escapes that every quoted form shares. -/
def shortEscape? (quote c : Char) : Option (List Char) :=
  if c = quote || c = '\\' then some ['\\', c]
  else if c = '\n' then some ['\\', 'n']
  else if c = '\r' then some ['\\', 'r']
  else if c = '\t' then some ['\\', 't']
  else none

/-- One character inside quotes. -/
def quoteChar (quote c : Char) : List Char :=
  match shortEscape? quote c with
  | some escape => escape
  | none => if isPrintable c then [c] else codeEscape c.toNat

/-- The quote that needs fewer escapes, the single one when in doubt. -/
def chooseQuote (s : List Char) : Char :=
  if s.contains '\'' && !s.contains '"' then '"' else '\''

/-- A text in quotes. -/
def quotedChars (s : List Char) : List Char :=
  let quote := chooseQuote s
  quote :: s.flatMap (quoteChar quote) ++ [quote]

/-- A text in quotes. -/
def quoted (s : String) : String :=
  String.ofList (quotedChars s.toList)

/-- One byte inside quotes: ASCII shows as it is, all else as an escape. -/
def quoteByte (quote : Char) (b : UInt8) : List Char :=
  let c := Char.ofNat b.toNat
  match shortEscape? quote c with
  | some escape => escape
  | none => if 0x20 ≤ b.toNat && b.toNat < 0x7f then [c] else '\\' :: 'x' :: hex 2 b.toNat

/-- Bytes in quotes, marked by a leading `b`. -/
def quotedBytes (bytes : List UInt8) : String :=
  let quote := chooseQuote (bytes.map fun b => Char.ofNat b.toNat)
  String.ofList ('b' :: quote :: bytes.flatMap (quoteByte quote) ++ [quote])

end AccessPolicy.Text
