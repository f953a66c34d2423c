namespace AccessPolicy

/-- Days in a month of a year. -/
def daysInMonth (year month : Nat) : Nat :=
  if month = 2 then
    if year % 4 = 0 && (year % 100 != 0 || year % 400 = 0) then 29 else 28
  else if month = 4 || month = 6 || month = 9 || month = 11 then 30
  else 31

/-- A day. -/
structure Date where
  year : Nat
  month : Nat
  day : Nat
deriving DecidableEq, Repr

/-- A moment of a day, with the distance of its clock from universal time in seconds where that is known. -/
structure Moment where
  date : Date
  hour : Nat
  minute : Nat
  second : Nat
  micro : Nat
  offset : Option Int
deriving DecidableEq, Repr

/-- The part of a date or time that is out of range. -/
inductive CalendarFault where
  | year (given : Nat)
  | month
  | day
  | hour
  | minute
  | second
  | offset (seconds : Int)
deriving DecidableEq, Repr

/-- A span of time by its days and the seconds of the last day, parts of nought left out. -/
def spanText (seconds : Int) : String :=
  let days := Int.fdiv seconds 86400
  let rest := Int.fmod seconds 86400
  let parts := (if days = 0 then [] else [s!"days={days}"]) ++ (if rest = 0 then [] else [s!"seconds={rest}"])
  "datetime.timedelta(" ++ (if parts.isEmpty then "0" else String.intercalate ", " parts) ++ ")"

/-- What is said of a part out of range. -/
def CalendarFault.message : CalendarFault → String
  | .year given => s!"year {given} is out of range"
  | .month => "month must be in 1..12"
  | .day => "day is out of range for month"
  | .hour => "hour must be in 0..23"
  | .minute => "minute must be in 0..59"
  | .second => "second must be in 0..59"
  | .offset seconds =>
    "offset must be a timedelta strictly between -timedelta(hours=24) and timedelta(hours=24), not "
      ++ spanText seconds ++ "."

/-- The day with these parts, if there is one. -/
def Date.make (year month day : Nat) : Except CalendarFault Date :=
  if year = 0 then .error (.year year)
  else if month = 0 ∨ 12 < month then .error .month
  else if day = 0 ∨ daysInMonth year month < day then .error .day
  else .ok ⟨year, month, day⟩

/-- The distance from universal time, if it is less than a day. -/
def checkOffset (seconds : Int) : Except CalendarFault Int :=
  if -86400 < seconds ∧ seconds < 86400 then .ok seconds else .error (.offset seconds)

/-- The moment with these parts, if there is one. -/
def Moment.make (year month day hour minute second micro : Nat) (offset : Option Int) :
    Except CalendarFault Moment := do
  let date ← Date.make year month day
  if 23 < hour then .error .hour
  else if 59 < minute then .error .minute
  else if 59 < second then .error .second
  else .ok ⟨date, hour, minute, second, micro, offset⟩

/-- Days from the first day of year one, which is day one. -/
def Date.ordinal (d : Date) : Int :=
  let y := Int.ofNat d.year - 1
  let past := (List.range (d.month - 1)).foldl (fun days m => days + daysInMonth d.year (m + 1)) 0
  y * 365 + y / 4 - y / 100 + y / 400 + Int.ofNat past + Int.ofNat d.day

/-- Microseconds of the clock from the first day of year one. -/
def Moment.clock (m : Moment) : Int :=
  (((m.date.ordinal * 24 + m.hour) * 60 + m.minute) * 60 + m.second) * 1000000 + m.micro

/-- Microseconds of universal time, for a moment whose distance from it is known. -/
def Moment.instant? (m : Moment) : Option Int :=
  m.offset.map fun seconds => m.clock - seconds * 1000000

/-- A number with leading noughts up to a width. -/
def padded (width n : Nat) : String :=
  let digits := Nat.toDigits 10 n
  String.ofList (List.replicate (width - digits.length) '0' ++ digits)

/-- A day as `year-month-day`. -/
def Date.text (d : Date) : String :=
  padded 4 d.year ++ "-" ++ padded 2 d.month ++ "-" ++ padded 2 d.day

/-- A distance from universal time as `±hours:minutes`, with seconds where there are any. -/
def offsetText (seconds : Int) : String :=
  let n := seconds.natAbs
  (if seconds < 0 then "-" else "+") ++ padded 2 (n / 3600) ++ ":" ++ padded 2 (n / 60 % 60)
    ++ (if n % 60 = 0 then "" else ":" ++ padded 2 (n % 60))

/-- A moment with the given separator between day and time; microseconds only where there are any. -/
def Moment.textWith (separator : String) (m : Moment) : String :=
  m.date.text ++ separator ++ padded 2 m.hour ++ ":" ++ padded 2 m.minute ++ ":" ++ padded 2 m.second
    ++ (if m.micro = 0 then "" else "." ++ padded 6 m.micro) ++ (m.offset.map offsetText).getD ""

end AccessPolicy
