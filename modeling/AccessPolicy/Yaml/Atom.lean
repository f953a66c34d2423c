import AccessPolicy.Text.Cased
import AccessPolicy.Text.Line
import AccessPolicy.Value.Order
import AccessPolicy.Yaml.Base64
import AccessPolicy.Yaml.Tag

namespace AccessPolicy.Yaml.Atom

/-- Refuses a scalar that does not fit its tag. -/
def refuse {α : Type} (fault : ScalarFault) : Except Failure α :=
  .error (.scalar fault)

/-- A word of truth. -/
def truth (s : List Char) : Except Failure Value :=
  let word := String.ofList (Text.lowerText s)
  if ["yes", "true", "on"].contains word then .ok (.bool true)
  else if ["no", "false", "off"].contains word then .ok (.bool false)
  else refuse .truthWord

/-- The whole number that a text denotes in a base. -/
def readInteger (base : Nat) (s : List Char) : Except Failure Int :=
  match Text.readInt base s with
  | .ok n => .ok n
  | .error .malformed => refuse (.integer base s)
  | .error (.tooLong digits) => refuse (.longInteger digits)

/-- A sign and what follows it. Underscores have been left out, and something has to be there. -/
def splitSign (s : List Char) : Except Failure (Bool × List Char) :=
  if s.isEmpty then refuse .emptyNumber else .ok (Text.takeSign s)

/-- The absolute value of a whole number without underscores: nought, a numeral in base two, sixteen or eight,
parts in sixtieths, or a decimal numeral. -/
def magnitude (s : List Char) : Except Failure Int := do
  match s with
  | [] => refuse .emptyNumber
  | ['0'] => return 0
  | '0' :: 'b' :: rest => readInteger 2 rest
  | '0' :: 'x' :: rest => readInteger 16 rest
  | '0' :: _ => readInteger 8 s
  | _ =>
    if s.contains ':' then
      let parts ← (Text.splitAt ':' s).mapM (readInteger 10)
      return parts.foldl (fun total part => total * 60 + part) 0
    else readInteger 10 s

/-- A whole number. -/
def integer (s : List Char) : Except Failure Value := do
  let (negative, body) ← splitSign (s.filter (· != '_'))
  if body == ['0'] then return .int 0
  let n ← magnitude body
  return .int (if negative then -n else n)

/-- The decimal that a text denotes. -/
def readDecimal (s : List Char) : Except Failure Binary64 :=
  match Text.readFloat s with
  | some x => .ok x
  | none => refuse (.decimal s)

/-- The sum of parts in sixtieths, from the last part on, each rounded as it is added. -/
def sumSixtieths : Nat → Binary64 → List Binary64 → Except Failure Binary64
  | _, total, [] => .ok total
  | place, total, part :: rest =>
    match Binary64.ofNat? place with
    | none => refuse .hugePlace
    | some p => sumSixtieths (place * 60) (total.add (part.mul p)) rest

/-- A decimal: a name of an infinity or of no number, which is the same object each time, parts in sixtieths, or a
numeral. -/
def decimal (s : List Char) : Except Failure Value := do
  let (negative, body) ← splitSign (Text.lowerText (s.filter (· != '_')))
  if body == ".nan".toList then return .float (.nan none)
  let x ←
    if body == ".inf".toList then Except.ok (Binary64.infinite false)
    else if body.contains ':' then do
      let parts ← (Text.splitAt ':' body).mapM readDecimal
      sumSixtieths 1 (.nought false) parts.reverse
    else readDecimal body
  return .float (if negative then x.neg else x)

/-- A run of digits at the start, at least one and at most two. -/
def oneOrTwoDigits : List Char → Option (Nat × List Char)
  | a :: b :: rest =>
    if !a.isDigit then none
    else if b.isDigit then some ((a.toNat - 48) * 10 + (b.toNat - 48), rest)
    else some (a.toNat - 48, b :: rest)
  | [a] => if a.isDigit then some (a.toNat - 48, []) else none
  | [] => none

/-- Exactly so many digits at the start. -/
def exactDigits (count : Nat) (s : List Char) : Option (Nat × List Char) :=
  let digits := s.take count
  if digits.length = count ∧ digits.all Char.isDigit then
    some (Text.ofBaseDigits 10 (digits.filterMap Text.baseDigit?), s.drop count)
  else none

/-- The parts of a timestamp. The distance from universal time is in seconds. -/
structure TimestampParts where
  year : Nat
  month : Nat
  day : Nat
  time : Option (Nat × Nat × Nat × Nat × Option Int)

/-- Whether nothing follows, or one line feed. -/
def atEnd (s : List Char) : Bool :=
  s == [] || s == ['\n']

/-- A zone up to the end, blanks before it; there may be none. -/
def readZone (s : List Char) : Option (Option Int) :=
  if atEnd s then some none
  else match s.dropWhile fun c => c == ' ' || c == '\t' with
    | 'Z' :: rest => if atEnd rest then some (some 0) else none
    | sign :: rest =>
      if sign != '+' && sign != '-' then none
      else do
        let (hours, rest) ← oneOrTwoDigits rest
        let (minutes, rest) ← match rest with
          | ':' :: rest => exactDigits 2 rest
          | rest => some (0, rest)
        let seconds : Int := Int.ofNat (hours * 3600 + minutes * 60)
        if atEnd rest then some (some (if sign == '-' then -seconds else seconds)) else none
    | [] => none

/-- Microseconds from the digits after the point, the first six of them. -/
def microseconds (digits : List Char) : Nat :=
  let six := digits.take 6
  Text.ofBaseDigits 10 ((six ++ List.replicate (6 - six.length) '0').filterMap Text.baseDigit?)

/-- The time of a day up to the end: hour, minute, second, microseconds, and the zone. -/
def readTime (s : List Char) : Option (Nat × Nat × Nat × Nat × Option Int) := do
  let (hour, s) ← oneOrTwoDigits s
  let (minute, s) ← exactDigits 2 (← Tag.dropChar ':' s)
  let (second, s) ← exactDigits 2 (← Tag.dropChar ':' s)
  let (fraction, s) := match s with
    | '.' :: rest => (rest.takeWhile Char.isDigit, rest.dropWhile Char.isDigit)
    | s => ([], s)
  return (hour, minute, second, microseconds fraction, ← readZone s)

/-- The separator between a day and a time: a letter, or blanks. -/
def dropTimeSeparator : List Char → Option (List Char)
  | c :: rest =>
    if c == 'T' || c == 't' then some rest
    else if c == ' ' || c == '\t' then some (rest.dropWhile fun c => c == ' ' || c == '\t')
    else none
  | [] => none

/-- The parts of a timestamp up to the end. -/
def readTimestamp (s : List Char) : Option TimestampParts := do
  let (year, s) ← exactDigits 4 s
  let (month, s) ← oneOrTwoDigits (← Tag.dropChar '-' s)
  let (day, s) ← oneOrTwoDigits (← Tag.dropChar '-' s)
  if atEnd s then return ⟨year, month, day, none⟩
  return ⟨year, month, day, some (← readTime (← dropTimeSeparator s))⟩

/-- A part of a date or time has to be in range. -/
def inCalendar {α : Type} (r : Except CalendarFault α) : Except Failure α :=
  r.mapError fun fault => .scalar (.calendar fault)

/-- A day or a moment. The zone is checked before the rest. -/
def timestamp (s : List Char) : Except Failure Value :=
  match readTimestamp s with
  | none => refuse .timestamp
  | some ⟨year, month, day, none⟩ => do return .date (← inCalendar (Date.make year month day))
  | some ⟨year, month, day, some (hour, minute, second, micro, zone)⟩ => do
    let offset ← inCalendar (zone.mapM checkOffset)
    return .moment (← inCalendar (Moment.make year month day hour minute second micro offset))

/-- The data of a scalar under one of the common tags that scalars can have; none for any other tag. -/
def ofScalar? (tag : String) (s : List Char) (place : Mark) : Option (Except Failure Value) :=
  if tag = Tag.text then some (.ok (.text (String.ofList s)))
  else if tag = Tag.nothing then some (.ok .null)
  else if tag = Tag.truth then some (truth s)
  else if tag = Tag.integer then some (integer s)
  else if tag = Tag.decimal then some (decimal s)
  else if tag = Tag.timestamp then some (timestamp s)
  else if tag = Tag.binary then
    some <| match Base64.decode s with
      | .ok bytes => .ok (.bytes bytes)
      | .error problem => .error (.form ⟨.value, none, problem, place⟩)
  else none

end AccessPolicy.Yaml.Atom
