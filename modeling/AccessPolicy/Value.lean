import AccessPolicy.Calendar
import AccessPolicy.Decimal.Shortest
import AccessPolicy.Text.Quoted

namespace AccessPolicy

/-- A piece of data. Maps keep the order in which their keys were first given; no two keys of a map and no two
members of a set are the same. -/
inductive Value where
  | null
  | bool (b : Bool)
  | int (n : Int)
  | float (x : Binary64)
  | text (s : String)
  | bytes (b : List UInt8)
  | date (d : Date)
  | moment (m : Moment)
  | list (items : List Value)
  | tuple (items : List Value)
  | set (members : List Value)
  | map (entries : List (Value × Value))
deriving Inhabited, Repr

namespace Value

/-- The name of the kind of data, as messages give it. -/
def kind : Value → String
  | null => "NoneType"
  | bool _ => "bool"
  | int _ => "int"
  | float _ => "float"
  | text _ => "str"
  | bytes _ => "bytes"
  | date _ => "date"
  | moment _ => "datetime"
  | list _ => "list"
  | tuple _ => "tuple"
  | set _ => "set"
  | map _ => "dict"

/-- How a distance from universal time is shown as an expression. -/
def zoneExpression (seconds : Int) : String :=
  if seconds = 0 then "datetime.timezone.utc" else "datetime.timezone(" ++ spanText seconds ++ ")"

/-- A moment as an expression; seconds and microseconds only where they are not both nought. -/
def momentExpression (m : Moment) : String :=
  let small :=
    if m.micro != 0 then [m.second, m.micro] else if m.second != 0 then [m.second] else []
  let parts := ([m.date.year, m.date.month, m.date.day, m.hour, m.minute] ++ small).map toString
  let zone := match m.offset with
    | some seconds => ["tzinfo=" ++ zoneExpression seconds]
    | none => []
  "datetime.datetime(" ++ String.intercalate ", " (parts ++ zone) ++ ")"

mutual
/-- The data as an expression: texts in quotes, collections in their brackets. -/
def expression : Value → String
  | null => "None"
  | bool b => if b then "True" else "False"
  | int n => toString n
  | float x => x.text
  | text s => Text.quoted s
  | bytes b => Text.quotedBytes b
  | date d => s!"datetime.date({d.year}, {d.month}, {d.day})"
  | moment m => momentExpression m
  | list items => "[" ++ String.intercalate ", " (expressions items) ++ "]"
  | tuple [item] => "(" ++ item.expression ++ ",)"
  | tuple items => "(" ++ String.intercalate ", " (expressions items) ++ ")"
  | set [] => "set()"
  | set items => "\x7b" ++ String.intercalate ", " (expressions items) ++ "\x7d"
  | map entries => "\x7b" ++ String.intercalate ", " (entryExpressions entries) ++ "\x7d"

/-- The expressions of several pieces of data. -/
def expressions : List Value → List String
  | [] => []
  | v :: vs => v.expression :: expressions vs

/-- The expressions of the entries of a map. -/
def entryExpressions : List (Value × Value) → List String
  | [] => []
  | (k, v) :: es => (k.expression ++ ": " ++ v.expression) :: entryExpressions es
end

/-- The data as plain text: a text is itself, days and moments are written out, all else is its expression. -/
def plain : Value → String
  | text s => s
  | date d => d.text
  | moment m => m.textWith " "
  | v => v.expression

end Value

end AccessPolicy
