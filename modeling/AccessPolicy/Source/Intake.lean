import AccessPolicy.Diagnostics
import AccessPolicy.Source.Item

namespace AccessPolicy.Source

/-- What becomes of an outcome: a document, an empty slot, an empty slot and a message, the end, or the end of
everything. -/
inductive Reception where
  | document (d : Document)
  | silent
  | told (message : String)
  | stop
  | abort (t : Trouble)
deriving Repr

/-- The reception of an outcome. An empty document is no trouble. -/
def Outcome.reception : Outcome → Reception
  | ended | unreadable => .stop
  | item (.document d) => .document d
  | item (.data .null) => .silent
  | item (.data v) => .told ("Expected a policy document, but was type: " ++ v.kind)
  | failed t =>
    match t.wording? with
    | some wording => .told ("Error parsing the policy document: " ++ wording)
    | none => .abort t

/-- The identity of an item of a source. Items are counted from one. -/
def itemIdentity (source : String) (index : Nat) : String :=
  source ++ "[" ++ toString index ++ "]"

/-- What has been taken in: the slots, the messages, and the trouble that has ended everything, if one has. -/
structure Intake where
  slots : List (Option Document)
  diagnostics : Diagnostics
  trouble : Option Trouble

/-- An intake with a slot before all others. -/
def Intake.after (slot : Option Document) (i : Intake) : Intake :=
  { i with slots := slot :: i.slots }

/-- Takes outcomes in, the first of which has the given index. Each gets a slot; what cannot be used leaves its slot empty,
is told, and keeps no other item from being taken in. -/
def intakeFrom (source : String) (index : Nat) (diagnostics : Diagnostics) : List Outcome → Intake
  | [] => ⟨[], diagnostics, none⟩
  | o :: rest =>
    match o.reception with
    | .document d => (intakeFrom source (index + 1) diagnostics rest).after (some d)
    | .silent => (intakeFrom source (index + 1) diagnostics rest).after none
    | .told message =>
      (intakeFrom source (index + 1) (diagnostics.add (itemIdentity source index) message) rest).after none
    | .stop => ⟨[], diagnostics, none⟩
    | .abort t => ⟨[], diagnostics, some t⟩

/-- Takes in all outcomes of a source. -/
def intake (source : String) (diagnostics : Diagnostics) (outcomes : List Outcome) : Intake :=
  intakeFrom source 1 diagnostics outcomes

end AccessPolicy.Source
