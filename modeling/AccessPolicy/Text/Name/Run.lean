namespace AccessPolicy.Text

/-- Consecutive characters from a code point on, with their names in Unicode 14. The names begin with the lead; the rest of
each stands between commas. -/
structure NamedRun where
  first : Nat
  lead : String
  names : List String

/-- The code point of a name in a run. -/
def NamedRun.code? (run : NamedRun) (name : List Char) : Option Nat :=
  let lead := run.lead.toList
  if lead.isPrefixOf name then
    let rest := String.ofList (name.drop lead.length)
    ((run.names.flatMap (·.splitOn ",")).findIdx? (· == rest)).map (run.first + ·)
  else none

end AccessPolicy.Text
