import AccessPolicy.Text.Quoted

namespace AccessPolicy

/-- A message about something. What has no identity has the empty one. -/
structure Note where
  identity : String
  message : String
deriving DecidableEq, Repr

/-- All messages, in the order in which they were recorded. -/
structure Diagnostics where
  notes : List Note
deriving DecidableEq, Repr, Inhabited

namespace Diagnostics

/-- No messages. -/
def empty : Diagnostics := ⟨[]⟩

/-- Records a message. -/
def add (d : Diagnostics) (identity : Option String) (message : String) : Diagnostics :=
  ⟨d.notes ++ [⟨identity.getD "", message⟩]⟩

/-- The messages under an identity, in the order in which they were recorded. -/
def messagesFor (d : Diagnostics) (identity : String) : List String :=
  (d.notes.filter fun n => n.identity = identity).map Note.message

/-- The identities that have messages, the one that had its first message first. -/
def identities (d : Diagnostics) : List String :=
  (d.notes.map Note.identity).eraseDups

/-- The messages by identity. -/
def groups (d : Diagnostics) : List (String × List String) :=
  d.identities.map fun identity => (identity, d.messagesFor identity)

/-- Records all messages of another collection of them, one identity after the other. -/
def merge (d other : Diagnostics) : Diagnostics :=
  ⟨d.notes ++ other.groups.flatMap fun (identity, messages) => messages.map (Note.mk identity)⟩

/-- The number of messages. -/
def size (d : Diagnostics) : Nat := d.notes.length

/-- Whether nothing was recorded. -/
def isValid (d : Diagnostics) : Bool := d.notes.isEmpty

/-- The messages of one identity, as they are shown. -/
def groupText (identity : String) (messages : List String) : String :=
  Text.quoted identity ++ ": [" ++ String.intercalate ", " (messages.map Text.quoted) ++ "]"

/-- All messages in short. -/
def text (d : Diagnostics) : String :=
  "<ValidationSet valid=" ++ (if d.isValid then "True" else "False") ++ " errors=\x7b"
    ++ String.intercalate ", " (d.groups.map fun (identity, messages) => groupText identity messages) ++ "\x7d>"

end Diagnostics

end AccessPolicy
