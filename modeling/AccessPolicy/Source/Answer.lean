import AccessPolicy.Source.Intake

namespace AccessPolicy.Source

/-- What an interruption may count as: that there are no more items, that they cannot be read, that the text of an
item is not well formed, that a value or its kind is not the right one, or that something fails as it runs. -/
inductive InterruptionKind where
  | exhausted
  | unreadable
  | markup
  | value
  | type
  | operation
deriving DecidableEq, Repr

/-- An interruption with all that it counts as. One that is a special case of another counts as that one too. -/
structure Interruption where
  name : String
  kinds : List InterruptionKind
  report : Report
deriving Repr

/-- How far an interruption reaches. -/
def Interruption.reach (i : Interruption) : Reach :=
  if i.kinds.contains .markup then .markup
  else if i.kinds.any [.value, .type, .operation].contains then .item
  else .all

/-- The outcome of an interruption. Of all that it counts as, the end comes first and the reach last. -/
def Interruption.outcome (i : Interruption) : Outcome :=
  if i.kinds.contains .exhausted then .ended
  else if i.kinds.contains .unreadable then .unreadable
  else .failed (.reported i.name i.reach i.report)

/-- An answer to the question for the next item. -/
inductive Answer where
  | document (d : Document)
  | data (v : Value)
  | failed (t : Trouble)
  | interrupted (i : Interruption)
deriving Repr

/-- The outcome of an answer. -/
def Answer.outcome : Answer → Outcome
  | document d => .item (.document d)
  | data v => .item (.data v)
  | failed t => .failed t
  | interrupted i => i.outcome

/-- The outcome of an answer, if maps are read as documents on the way or if they are not. -/
def Answer.outcomeBy (reading : Bool) (a : Answer) : Outcome :=
  if reading then a.outcome.convert else a.outcome

/-- What has come of a script of answers: the slots, the messages if they are kept, and the trouble that has ended
everything, if one has. -/
structure Stream where
  slots : List (Option Document)
  log : Option Diagnostics
  trouble : Option Trouble

/-- Takes in a script of answers, for a source that may have no identity. Where no messages are kept, they are told to
nobody. -/
def stream (reading : Bool) (source : Option String) (log : Option Diagnostics) (script : List Answer) : Stream :=
  let i := intake (source.getD "") (log.getD .empty) (script.map (Answer.outcomeBy reading))
  ⟨i.slots, log.map fun _ => i.diagnostics, i.trouble⟩

end AccessPolicy.Source
