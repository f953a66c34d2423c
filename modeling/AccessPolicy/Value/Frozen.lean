import AccessPolicy.Value.Order
import AccessPolicy.Value.Writable

namespace AccessPolicy.Value

/-- Why data has no frozen form: two values that would have to be ordered have no order, a key is or holds a whole
number that is too long to be written, or the data is deeper than calls may be nested. -/
inductive FreezeFault where
  | unordered
  | unwritableKey
  | tooDeep
deriving DecidableEq, Repr

/-- Whether an entry comes before another: by key, and between equal keys by value. -/
def entryLess? (a b : String × Value) : Option Bool :=
  if a.1 = b.1 then
    if same a.2 b.2 then some false else less? a.2 b.2
  else some (a.1 < b.1)

/-- The longest run behind an entry in which each comes before the one before it, or in which none does, and the entries
behind the run. -/
def takeRun (falling : Bool) (last : String × Value) :
    List (String × Value) → Option (List (String × Value) × List (String × Value))
  | [] => some ([], [])
  | next :: rest => do
    if (← entryLess? next last) = falling then
      let (run, left) ← takeRun falling next rest
      return (next :: run, left)
    else return ([], next :: rest)

/-- Puts an entry among sorted ones, behind those that it does not come before. It is compared with the one in the middle,
and then put among those on one side of that. -/
def insertSorted (entry : String × Value) (sorted : List (String × Value)) : Option (List (String × Value)) :=
  match _ : sorted.drop (sorted.length / 2) with
  | [] => some [entry]
  | other :: behind => do
    let before := sorted.take (sorted.length / 2)
    if ← entryLess? entry other then return (← insertSorted entry before) ++ other :: behind
    else return before ++ other :: (← insertSorted entry behind)
termination_by sorted.length
decreasing_by
  all_goals
    have length := congrArg List.length ‹sorted.drop _ = _›
    rw [List.length_drop, List.length_cons] at length
  · rw [List.length_take]
    omega
  · omega

/-- Sorts entries: the run that they begin with, then one after another; none when two values that would have to be ordered
have no order. -/
def sortEntries : List (String × Value) → Option (List (String × Value))
  | first :: second :: rest => do
    let falling ← entryLess? second first
    let (run, left) ← takeRun falling first (second :: rest)
    left.foldlM (fun sorted entry => insertSorted entry sorted) (if falling then (first :: run).reverse else first :: run)
  | entries => some entries

/-- The frozen form of a map, from the texts of its keys and its frozen values. -/
def freezeMap (entries : List (String × Value)) : Except FreezeFault Value :=
  match sortEntries entries with
  | some sorted => .ok (tuple (sorted.map fun entry => tuple [text entry.1, entry.2]))
  | none => .error .unordered

/-- The text of a key. -/
def keyText (key : Value) : Except FreezeFault String :=
  if key.isWritable then .ok key.plain else .error .unwritableKey

/-- Enters one more of the calls that may be nested, of which none stands for any number; what is left of them. -/
def enter : Option Nat → Except FreezeFault (Option Nat)
  | none => .ok none
  | some 0 => .error .tooDeep
  | some (calls + 1) => .ok (some calls)

mutual
/-- The frozen form, by which rules are told apart: sequences become tuples, and maps become tuples of their entries sorted
by the text of the key. Each piece of data takes a call inside that of the data that holds it, and only so many calls may be
nested. -/
def freeze : Value → (calls : Option Nat := none) → Except FreezeFault Value
  | map entries, calls => do freezeMap (← freezeEntries entries (← enter calls))
  | list items, calls => return tuple (← freezeAll items (← enter calls))
  | tuple items, calls => return tuple (← freezeAll items (← enter calls))
  | set members, calls => return set (← freezeAll members (← enter calls))
  | v, calls => do
    let _ ← enter calls
    return v

/-- The frozen forms of several pieces of data. -/
def freezeAll : List Value → (calls : Option Nat := none) → Except FreezeFault (List Value)
  | [], _ => .ok []
  | v :: vs, calls => do return (← freeze v calls) :: (← freezeAll vs calls)

/-- The entries of a map with keys as text and frozen values, each key before its value. -/
def freezeEntries : List (Value × Value) → (calls : Option Nat := none) → Except FreezeFault (List (String × Value))
  | [], _ => .ok []
  | (k, v) :: es, calls => do return (← keyText k, ← freeze v calls) :: (← freezeEntries es calls)
end

theorem enter_none : enter none = .ok none := rfl

mutual
/-- What is frozen within some nested calls is frozen so where any number may be nested. -/
theorem freeze_of_calls {v a : Value} {calls : Option Nat} (frozen : v.freeze calls = .ok a) : v.freeze = .ok a := by
  cases entered : enter calls with
  | error fault => cases v <;> simp [freeze, entered, bind, Except.bind] at frozen
  | ok left =>
    cases v with
    | map entries =>
      cases taken : freezeEntries entries left with
      | error fault => simp [freeze, entered, taken, bind, Except.bind] at frozen
      | ok texts =>
        have all := freezeEntries_of_calls taken
        simpa [freeze, enter_none, entered, taken, all, bind, Except.bind] using frozen
    | list items | tuple items | set items =>
      cases taken : freezeAll items left with
      | error fault => simp [freeze, entered, taken, bind, Except.bind] at frozen
      | ok parts =>
        have all := freezeAll_of_calls taken
        simpa [freeze, enter_none, entered, taken, all, bind, Except.bind] using frozen
    | _ => simpa [freeze, enter_none, entered, bind, Except.bind] using frozen

theorem freezeAll_of_calls {items as : List Value} {calls : Option Nat} (taken : freezeAll items calls = .ok as) :
    freezeAll items = .ok as := by
  cases items with
  | nil => simpa [freezeAll] using taken
  | cons v rest =>
    cases first : v.freeze calls with
    | error fault => simp [freezeAll, first, bind, Except.bind] at taken
    | ok a =>
      cases others : freezeAll rest calls with
      | error fault => simp [freezeAll, first, others, bind, Except.bind] at taken
      | ok parts =>
        have here := freeze_of_calls first
        have there := freezeAll_of_calls others
        simpa [freezeAll, first, others, here, there, bind, Except.bind] using taken

theorem freezeEntries_of_calls {entries : List (Value × Value)} {as : List (String × Value)} {calls : Option Nat}
    (taken : freezeEntries entries calls = .ok as) : freezeEntries entries = .ok as := by
  cases entries with
  | nil => simpa [freezeEntries] using taken
  | cons e rest =>
    obtain ⟨k, v⟩ := e
    cases key : keyText k with
    | error fault => simp [freezeEntries, key, bind, Except.bind] at taken
    | ok t =>
      cases first : v.freeze calls with
      | error fault => simp [freezeEntries, key, first, bind, Except.bind] at taken
      | ok a =>
        cases others : freezeEntries rest calls with
        | error fault => simp [freezeEntries, key, first, others, bind, Except.bind] at taken
        | ok parts =>
          have here := freeze_of_calls first
          have there := freezeEntries_of_calls others
          simpa [freezeEntries, key, first, others, here, there, bind, Except.bind] using taken
end

end AccessPolicy.Value
