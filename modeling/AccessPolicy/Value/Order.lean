import AccessPolicy.Value

namespace AccessPolicy

/-- What a number is worth: a fraction in lowest terms, an infinity, or nothing. Nothing is worth the same as nothing but
itself. -/
inductive Worth where
  | fraction (num : Int) (den : Nat)
  | infinite (negative : Bool)
  | nothing (object : Option Nat)
deriving DecidableEq, Repr

/-- A fraction brought to lowest terms. -/
def Worth.ofFraction (num : Int) (den : Nat) : Worth :=
  let common := Nat.gcd num.natAbs den
  .fraction (num / common) (den / common)

/-- Whether one number is less than another. No number is less or greater than nothing. -/
def Worth.less : Worth → Worth → Bool
  | .fraction n d, .fraction n' d' => n * d' < n' * d
  | .infinite s, .infinite s' => s && !s'
  | .infinite s, .fraction .. => s
  | .fraction .., .infinite s => !s
  | _, _ => false

namespace Value

/-- What the data is worth, if it is a number. -/
def worth? : Value → Option Worth
  | bool b => some (.fraction (if b then 1 else 0) 1)
  | int n => some (.fraction n 1)
  | float (.finite negative mantissa exponent) =>
    let (n, d) := Binary64.fraction negative mantissa exponent
    some (.ofFraction n d)
  | float (.infinite negative) => some (.infinite negative)
  | float (.nan object) => some (.nothing object)
  | _ => none

/-- Whether two moments are the same: by universal time where both know it, by their clocks where neither
does, and never otherwise. -/
def sameMoment (m m' : Moment) : Bool :=
  match m.instant?, m'.instant? with
  | some t, some t' => t == t'
  | none, none => m.clock == m'.clock
  | _, _ => false

/-- Whether two pieces of data that are no collections are the same. Numbers are compared by what they are worth, so `1`,
`1.0` and `true` are the same; all else is the same only within its kind. -/
def sameAtom : Value → Value → Bool
  | null, null => true
  | text s, text s' => s == s'
  | bytes b, bytes b' => b == b'
  | date d, date d' => d == d'
  | moment m, moment m' => sameMoment m m'
  | v, v' =>
    match v.worth?, v'.worth? with
    | some w, some w' => w == w'
    | _, _ => false

mutual
/-- Whether two pieces of data are the same. Sets and maps are the same whatever the order of their parts. -/
def same : Value → Value → Bool
  | list xs, list ys => sameAll xs ys
  | tuple xs, tuple ys => sameAll xs ys
  | set xs, set ys => xs.length == ys.length && containsAll ys xs
  | map es, map fs => es.length == fs.length && hasEntries fs es
  | v, v' => sameAtom v v'

/-- Whether two lists are the same item by item. -/
def sameAll : List Value → List Value → Bool
  | [], [] => true
  | x :: xs, y :: ys => same x y && sameAll xs ys
  | _, _ => false

/-- Whether each item of the second list occurs in the first. -/
def containsAll (ys : List Value) : List Value → Bool
  | [] => true
  | x :: xs => ys.any (fun y => same x y) && containsAll ys xs

/-- Whether each entry of the second list occurs in the first. -/
def hasEntries (fs : List (Value × Value)) : List (Value × Value) → Bool
  | [] => true
  | (k, v) :: es => fs.any (fun f => same k f.1 && same v f.2) && hasEntries fs es
end

/-- The value under a key. -/
def lookup? (entries : List (Value × Value)) (key : Value) : Option Value :=
  (entries.find? fun entry => key.same entry.1).map Prod.snd

/-- Gives a key a value: in place if the key is there, else at the end. -/
def putEntry {α : Type} (key : Value) (value : α) : List (Value × α) → List (Value × α)
  | [] => [(key, value)]
  | (k, v) :: rest => if key.same k then (k, value) :: rest else (k, v) :: putEntry key value rest

/-- Adds a member unless it is there. -/
def addMember (member : Value) (members : List Value) : List Value :=
  if members.any member.same then members else members ++ [member]

/-- The least of two lists of bytes comes first. -/
def bytesLess : List UInt8 → List UInt8 → Bool
  | _, [] => false
  | [], _ :: _ => true
  | b :: bs, c :: cs => b < c || (b == c && bytesLess bs cs)

/-- Whether a moment comes before another, if both or neither know universal time. -/
def momentLess? (m m' : Moment) : Option Bool :=
  match m.instant?, m'.instant? with
  | some t, some t' => some (t < t')
  | none, none => some (m.clock < m'.clock)
  | _, _ => none

/-- Whether one piece of data that is no sequence comes before another; none when the two have no order. A set
comes before another when it is a proper part of it. -/
def atomLess? : Value → Value → Option Bool
  | text s, text s' => some (s < s')
  | bytes b, bytes b' => some (bytesLess b b')
  | date d, date d' => some (d.ordinal < d'.ordinal)
  | moment m, moment m' => momentLess? m m'
  | set xs, set ys => some (xs.length < ys.length && containsAll ys xs)
  | v, v' =>
    match v.worth?, v'.worth? with
    | some w, some w' => some (w.less w')
    | _, _ => none

mutual
/-- Whether one piece of data comes before another; none when the two have no order. -/
def less? : Value → Value → Option Bool
  | list xs, list ys => lessAll? xs ys
  | tuple xs, tuple ys => lessAll? xs ys
  | v, v' => atomLess? v v'

/-- The order of sequences: the first items that differ decide, else the shorter sequence comes first. -/
def lessAll? : List Value → List Value → Option Bool
  | _, [] => some false
  | [], _ :: _ => some true
  | x :: xs, y :: ys => if same x y then lessAll? xs ys else less? x y
end

end Value

end AccessPolicy
