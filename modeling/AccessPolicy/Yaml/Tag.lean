import AccessPolicy.Yaml.Mark

namespace AccessPolicy.Yaml.Tag

/-- The common tags by their last part. -/
def common (name : String) : String :=
  "tag:yaml.org,2002:" ++ name

def nothing : String := common "null"
def truth : String := common "bool"
def integer : String := common "int"
def decimal : String := common "float"
def binary : String := common "binary"
def timestamp : String := common "timestamp"
def orderedMap : String := common "omap"
def pairs : String := common "pairs"
def set : String := common "set"
def text : String := common "str"
def sequence : String := common "seq"
def mapping : String := common "map"
def merge : String := common "merge"
def value : String := common "value"
def indicator : String := common "yaml"

/-- Without its sign, if it has one. -/
def unsigned : List Char → List Char
  | '+' :: rest | '-' :: rest => rest
  | rest => rest

/-- Digits and underscores. -/
def isDigitOrBar (c : Char) : Bool :=
  c.isDigit || c == '_'

/-- Whether there are characters and all are of a class. -/
def allOf (p : Char → Bool) (s : List Char) : Bool :=
  !s.isEmpty && s.all p

/-- The words of truth. -/
def truthWords : List String :=
  ["yes", "Yes", "YES", "no", "No", "NO", "true", "True", "TRUE", "false", "False", "FALSE", "on", "On", "ON",
    "off", "Off", "OFF"]

/-- The words for nothing. -/
def nothingWords : List String :=
  ["", "~", "null", "Null", "NULL"]

/-- Parts of one or two digits below sixty, each after a colon; what follows them is returned. -/
def sixtieths : Nat → List Char → List Char
  | 0, s => s
  | steps + 1, s =>
    match s with
    | ':' :: a :: b :: rest =>
      if '0' ≤ a && a ≤ '5' && b.isDigit then sixtieths steps rest
      else if a.isDigit then sixtieths steps (b :: rest)
      else s
    | [':', a] => if a.isDigit then [] else s
    | _ => s

/-- Whether at least one part in sixtieths stands at the start. -/
def hasSixtieth : List Char → Bool
  | ':' :: a :: _ => a.isDigit
  | _ => false

/-- Whole numbers: in base two, eight, ten, sixteen, or in sixtieths. -/
def isInteger (s : List Char) : Bool :=
  match unsigned s with
  | '0' :: 'b' :: rest => allOf (fun c => c == '0' || c == '1' || c == '_') rest
  | '0' :: 'x' :: rest =>
    allOf (fun c => isDigitOrBar c || ('a' ≤ c && c ≤ 'f') || ('A' ≤ c && c ≤ 'F')) rest
  | '0' :: rest => rest.all fun c => ('0' ≤ c && c ≤ '7') || c == '_'
  | first :: rest =>
    first.isDigit &&
      (let tail := rest.dropWhile isDigitOrBar
       tail.isEmpty || (hasSixtieth tail && (sixtieths tail.length tail).isEmpty))
  | [] => false

/-- An exponent, which needs a sign, up to the end. -/
def isExponentOrEnd : List Char → Bool
  | [] => true
  | e :: sign :: digits => (e == 'e' || e == 'E') && (sign == '+' || sign == '-') && allOf Char.isDigit digits
  | _ => false

/-- Decimals: with a point, in sixtieths with a point, or by name. Only those that start with a digit, and
infinities, may have a sign. -/
def isDecimal (s : List Char) : Bool :=
  let body := unsigned s
  let named := [".inf", ".Inf", ".INF"].any (·.toList == body) || [".nan", ".NaN", ".NAN"].any (·.toList == s)
  named ||
    match body with
    | '.' :: first :: rest =>
      body == s && first.isDigit && isExponentOrEnd (rest.dropWhile isDigitOrBar)
    | first :: rest =>
      first.isDigit &&
        (match rest.dropWhile isDigitOrBar with
         | '.' :: tail => isExponentOrEnd (tail.dropWhile isDigitOrBar)
         | tail =>
           hasSixtieth tail &&
             (match sixtieths tail.length tail with
              | '.' :: rest => rest.all isDigitOrBar
              | _ => false))
    | [] => false

/-- One or two digits at the start, the second taken if it is there. -/
def dropOneOrTwoDigits : List Char → Option (List Char)
  | a :: b :: rest => if a.isDigit then some (if b.isDigit then rest else b :: rest) else none
  | [a] => if a.isDigit then some [] else none
  | [] => none

/-- Drops exactly so many digits. -/
def dropDigits : Nat → List Char → Option (List Char)
  | 0, s => some s
  | n + 1, a :: rest => if a.isDigit then dropDigits n rest else none
  | _ + 1, [] => none

/-- Drops a character. -/
def dropChar (c : Char) : List Char → Option (List Char)
  | a :: rest => if a = c then some rest else none
  | [] => none

/-- A distance from universal time up to the end, blanks before it; there may be none. -/
def isZoneOrEnd (s : List Char) : Bool :=
  match s.dropWhile fun c => c == ' ' || c == '\t' with
  | [] => s.isEmpty
  | ['Z'] => true
  | sign :: rest =>
    (sign == '+' || sign == '-') &&
      (match dropOneOrTwoDigits rest with
       | some [] => true
       | some (':' :: minutes) => dropDigits 2 minutes == some []
       | _ => false)

/-- The time of a day up to the end. -/
def isTime (s : List Char) : Bool :=
  let parsed := do
    let s ← dropOneOrTwoDigits s
    let s ← dropDigits 2 (← dropChar ':' s)
    dropDigits 2 (← dropChar ':' s)
  match parsed with
  | none => false
  | some ('.' :: rest) => isZoneOrEnd (rest.dropWhile Char.isDigit)
  | some rest => isZoneOrEnd rest

/-- The separator between a day and a time, and the time. -/
def isSeparatedTime : List Char → Bool
  | [] => false
  | c :: rest =>
    if c == 'T' || c == 't' then isTime rest
    else (c == ' ' || c == '\t') && isTime (rest.dropWhile fun c => c == ' ' || c == '\t')

/-- Days with two digits for month and day, and moments. -/
def isTimestamp (s : List Char) : Bool :=
  let day := do
    let s ← dropDigits 4 s
    let s ← dropDigits 2 (← dropChar '-' s)
    dropDigits 2 (← dropChar '-' s)
  let loose := do
    let s ← dropDigits 4 s
    let s ← dropOneOrTwoDigits (← dropChar '-' s)
    dropOneOrTwoDigits (← dropChar '-' s)
  day == some [] || (loose.map isSeparatedTime).getD false

/-- A text without the line feed that it ends in, if something stands before it. -/
def dropFinalFeed (s : List Char) : List Char :=
  match s.reverse with
  | '\n' :: c :: rest => (c :: rest).reverse
  | _ => s

/-- The tag that the content of a scalar tells. One line feed at the end makes no difference. -/
def ofContent (content : List Char) : String :=
  let s := dropFinalFeed content
  let word := String.ofList s
  if truthWords.contains word then truth
  else if isDecimal s then decimal
  else if isInteger s then integer
  else if word = "<<" then merge
  else if nothingWords.contains word then nothing
  else if isTimestamp s then timestamp
  else if word = "=" then value
  else if ["!", "&", "*"].contains word then indicator
  else text

end AccessPolicy.Yaml.Tag
