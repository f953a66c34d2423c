import AccessPolicy.Text.Numeral
import AccessPolicy.Value

namespace AccessPolicy.Value

/-- What is said of a number that is too long to be written. -/
def unwritableText : String :=
  s!"Exceeds the limit ({Text.longestDecimal} digits) for integer string conversion; use sys.set_int_max_str_digits() to increase the limit"

mutual
/-- Whether each whole number in the data can be written. -/
def isWritable : Value → Bool
  | int n => n.natAbs < Nat.pow 10 Text.longestDecimal
  | list items | tuple items | set items => allWritable items
  | map entries => entriesWritable entries
  | _ => true

/-- Whether each whole number in some data can be written. -/
def allWritable : List Value → Bool
  | [] => true
  | v :: rest => v.isWritable && allWritable rest

/-- Whether each whole number in some entries can be written. -/
def entriesWritable : List (Value × Value) → Bool
  | [] => true
  | (k, v) :: rest => k.isWritable && v.isWritable && entriesWritable rest
end

end AccessPolicy.Value
