import AccessPolicy.Document
import AccessPolicy.Text.Utf8
import AccessPolicy.Value.Order

namespace AccessPolicy.Document

/-- What does not fit. -/
inductive Misfit where
  | text
  | encodedText
  | list
  | map
  | record (name : String)
  | keyKind
  | unknownKey (key : String)
deriving DecidableEq, Repr

/-- The wording of a misfit. -/
def Misfit.wording : Misfit → String
  | .text => "Input should be a valid string"
  | .encodedText => "Input should be a valid string, unable to parse raw data as a unicode string"
  | .list => "Input should be a valid list"
  | .map => "Input should be a valid dictionary"
  | .record name => "Input should be a valid dictionary or instance of " ++ name
  | .keyKind => "Keys should be strings"
  | .unknownKey _ => "Extra inputs are not permitted"

/-- A misfit with the way that leads to it. -/
structure SchemaFault where
  location : List String
  misfit : Misfit
deriving DecidableEq, Repr

/-- A fault seen from further out. -/
def SchemaFault.under (part : String) (f : SchemaFault) : SchemaFault :=
  { f with location := part :: f.location }

/-- What is said of a fault. -/
def SchemaFault.message (f : SchemaFault) : String :=
  if f.location.isEmpty then f.misfit.wording else String.intercalate "." f.location ++ ": " ++ f.misfit.wording

/-- The key that a fault reports as unknown. -/
def SchemaFault.unknownKey? (f : SchemaFault) : Option String :=
  match f.misfit with
  | .unknownKey key => some key
  | _ => none

/-- What is said of all faults of a document: the first unknown key, else the first fault. -/
def faultsMessage (faults : List SchemaFault) : String :=
  match faults.findSome? SchemaFault.unknownKey? with
  | some key => "Unknown property: " ++ key
  | none => (faults.head?.map SchemaFault.message).getD ""

/-- What is read, or all faults. -/
abbrev Reading (α : Type) := Except (List SchemaFault) α

/-- Two readings of which the faults add up. -/
def Reading.and {α β : Type} (a : Reading α) (b : Reading β) : Reading (α × β) :=
  match a, b with
  | .ok a, .ok b => .ok (a, b)
  | .error fs, .error gs => .error (fs ++ gs)
  | .error fs, _ => .error fs
  | _, .error gs => .error gs

/-- A reading seen from further out. -/
def Reading.under {α : Type} (part : String) : Reading α → Reading α
  | .ok a => .ok a
  | .error fs => .error (fs.map (SchemaFault.under part))

/-- A reading whose faults are followed by others. -/
def Reading.butFor {α : Type} (r : Reading α) (faults : List SchemaFault) : Reading α :=
  match r with
  | .ok a => if faults.isEmpty then .ok a else .error faults
  | .error fs => .error (fs ++ faults)

/-- One misfit at this very place. -/
def misfit {α : Type} (m : Misfit) : Reading α := .error [⟨[], m⟩]

/-- A key as a part of a way. -/
def keyPart : Value → String
  | .text s => s
  | .bool b => if b then "1" else "0"
  | key => key.expression

/-- A text, or bytes that are UTF-8. -/
def readText : Value → Reading String
  | .text s => .ok s
  | .bytes b =>
    match Text.decode b with
    | .ok chars => .ok (String.ofList chars)
    | .error _ => misfit .encodedText
  | _ => misfit .text

/-- Something that may be missing. -/
def readOptional {α : Type} (read : Value → Reading α) : Value → Reading (Option α)
  | .null => .ok none
  | v => (read v).map some

/-- The readings of several things. -/
def readAll {α : Type} : List (Reading α) → Reading (List α)
  | [] => .ok []
  | r :: rs => (r.and (readAll rs)).map fun (a, as) => a :: as

/-- A map from texts. Keys that read as the same text fall together. -/
def readMap {α : Type} (read : Value → Reading α) : Value → Reading (TextMap α)
  | .map entries =>
    let read := entries.map fun (key, value) =>
      Reading.under (keyPart key) (((readText key).under "[key]").and (read value))
    (readAll read).map fun es => es.foldl (fun done (k, v) => done.put k v) .empty
  | _ => misfit .map

/-- A list; tuples and sets will do. -/
def readList {α : Type} (read : Value → Reading α) : Value → Reading (List α)
  | .list items | .tuple items | .set items =>
    readAll (items.zipIdx.map fun (item, i) => (read item).under (toString i))
  | _ => misfit .list

/-- The value of a field, null if it is missing. -/
def fieldValue (entries : List (Value × Value)) (name : String) : Value :=
  (Value.lookup? entries (.text name)).getD .null

/-- The reading of a field. -/
def readField {α : Type} (entries : List (Value × Value)) (name : String) (read : Value → Reading α) : Reading α :=
  (read (fieldValue entries name)).under name

/-- The fault of a key, if it does not belong to the fields. -/
def keyFault? (fields : List String) : Value → Option SchemaFault
  | .text s => if fields.contains s then none else some ⟨[s], .unknownKey s⟩
  | key => some ⟨[keyPart key], .keyKind⟩

/-- The keys that do not belong to the fields. -/
def keyFaults (fields : List String) (entries : List (Value × Value)) : List SchemaFault :=
  entries.filterMap fun (key, _) => keyFault? fields key

/-- A record with the given fields and no others. What is wrong inside the fields is listed first, then the keys that do not
belong there, as they come. -/
def readRecord {α : Type} (name : String) (fields : List String) (read : List (Value × Value) → Reading α) :
    Value → Reading α
  | .map entries => (read entries).butFor (keyFaults fields entries)
  | _ => misfit (.record name)

/-- The declared scope of a document. -/
def readScope : Value → Reading DeclaredScope :=
  readRecord "PolicyContext" ["project", "application"] fun entries =>
    ((readField entries "project" (readOptional readText)).and
      (readField entries "application" (readOptional readText))).map fun (p, a) => ⟨p, a⟩

/-- A selection of principals. -/
def readSelector : Value → Reading Selector :=
  readRecord "PrincipalSelector" ["username", "group", "urn"] fun entries =>
    .ok ⟨fieldValue entries "username", fieldValue entries "group", fieldValue entries "urn"⟩

/-- A section of matchers. -/
def readProperties (entries : List (Value × Value)) (name : String) : Reading (Option Properties) :=
  (readField entries name (readOptional (readMap .ok))).map fun p => p.map TextMap.entries

/-- An entry of the rules for a type. -/
def readEntry : Value → Reading Entry :=
  readRecord "TypeRule" ["allow", "deny", "match", "contains", "equals", "subset"] fun entries =>
    ((readProperties entries "match").and ((readProperties entries "contains").and
      ((readProperties entries "equals").and (readProperties entries "subset")))).map
      fun (regex, contains, equals, subset) =>
        ⟨fieldValue entries "allow", fieldValue entries "deny", ⟨regex, contains, equals, subset⟩⟩

/-- The document that data describes, or all faults. -/
def ofValue : Value → Reading Document :=
  readRecord "PolicyDocument" ["description", "context", "by", "notBy", "for"] fun entries =>
    ((readField entries "description" (readOptional readText)).and
      ((readField entries "context" (readOptional readScope)).and
      ((readField entries "by" (readOptional readSelector)).and
      ((readField entries "notBy" (readOptional readSelector)).and
      (readField entries "for" (readOptional (readMap (readList readEntry)))))))).map
      fun (description, scope, included, excluded, rules) => ⟨description, scope, included, excluded, rules⟩

end AccessPolicy.Document
