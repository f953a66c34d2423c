import AccessPolicy.Value.Order

namespace AccessPolicy.Value

mutual
/-- Whether data may be a member of a set: lists, sets and maps may not, nor tuples that hold such. -/
def isMember : Value → Bool
  | list _ | set _ | map _ => false
  | tuple items => areMembers items
  | _ => true

/-- Whether all of several pieces of data may be members of a set. -/
def areMembers : List Value → Bool
  | [] => true
  | v :: vs => v.isMember && areMembers vs
end

/-- What data holds: the characters of a text, the numbers of bytes, the keys of a map. -/
def members? : Value → Option (List Value)
  | text s => some (s.toList.map fun c => text (String.singleton c))
  | bytes b => some (b.map fun x => int x.toNat)
  | list items | tuple items | set items => some items
  | map entries => some (entries.map Prod.fst)
  | _ => none

/-- The set of some data, each piece once; none if a piece may not be a member. -/
def setOf? (items : List Value) : Option (List Value) :=
  if areMembers items then some (items.foldl (fun done v => addMember v done) []) else none

/-- Puts data behind that which it does not come before. -/
def insertInOrder (v : Value) : List Value → Option (List Value)
  | [] => some [v]
  | w :: rest => do
    if ← less? v w then return v :: w :: rest else return w :: (← insertInOrder v rest)

/-- Sorts data; none when two pieces of it have no order. -/
def sort? (items : List Value) : Option (List Value) :=
  items.foldlM (fun sorted v => insertInOrder v sorted) []

/-- Whether data counts as nothing: null, nought, and all that is empty. -/
def isVoid : Value → Bool
  | null | bool false | text "" | bytes [] | list [] | tuple [] | set [] | map [] => true
  | int n => n == 0
  | float (.finite _ mantissa _) => mantissa == 0
  | _ => false

end AccessPolicy.Value
