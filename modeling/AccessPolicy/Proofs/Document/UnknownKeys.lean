import AccessPolicy.Document.Schema
import Mathlib.Data.List.Basic

namespace AccessPolicy.Document

/-- A kind of record in a document: the document itself, its scope, a selection of principals, an entry of the rules. -/
inductive RecordKind where
  | document
  | scope
  | selector
  | entry
deriving DecidableEq, Repr

/-- The fields of a kind of record, by their names in data. -/
def RecordKind.fields : RecordKind → List String
  | document => ["description", "context", "by", "notBy", "for"]
  | scope => ["project", "application"]
  | selector => ["username", "group", "urn"]
  | entry => ["allow", "deny", "match", "contains", "equals", "subset"]

/-- A map that is read as a record. -/
structure Record where
  kind : RecordKind
  entries : List (Value × Value)

/-- The entries of a map. -/
def mapEntries : Value → List (Value × Value)
  | .map entries => entries
  | _ => []

/-- The items of a list, or of what will do for one. -/
def listItems : Value → List Value
  | .list items | .tuple items | .set items => items
  | _ => []

/-- Data as a record without others in it, if it is a map. -/
def recordOf (kind : RecordKind) : Value → List Record
  | .map entries => [⟨kind, entries⟩]
  | _ => []

/-- The records of a document. Those in its fields come first, field by field and in the order of the data, and the
document itself last. -/
def records : Value → List Record
  | .map entries =>
    recordOf .scope (fieldValue entries "context") ++ (recordOf .selector (fieldValue entries "by") ++
      (recordOf .selector (fieldValue entries "notBy") ++
        ((mapEntries (fieldValue entries "for")).flatMap fun type =>
          (listItems type.2).flatMap (recordOf .entry)))) ++ [⟨.document, entries⟩]
  | _ => []

/-- The key that a text is in a record which has no such field. -/
def RecordKind.unknownKey? (kind : RecordKind) : Value → Option String
  | .text key => if kind.fields.contains key then none else some key
  | _ => none

/-- The keys of a record that are none of its fields, as they come. -/
def Record.unknownKeys (r : Record) : List String := r.entries.filterMap fun entry => r.kind.unknownKey? entry.1

/-- The keys of the records of a document that are none of their fields. -/
def unknownKeys (v : Value) : List String := (records v).flatMap Record.unknownKeys

/-- Whether a record has a key that is none of its fields. -/
def Record.HasUnknown (r : Record) (key : String) : Prop :=
  (∃ value, (.text key, value) ∈ r.entries) ∧ key ∉ r.kind.fields

theorem Record.mem_unknownKeys {r : Record} {key : String} : key ∈ r.unknownKeys ↔ r.HasUnknown key := by
  have unknown (k : Value) : r.kind.unknownKey? k = some key ↔ k = .text key ∧ key ∉ r.kind.fields := by
    cases k with
    | text s =>
      by_cases known : s ∈ r.kind.fields
      · simp only [RecordKind.unknownKey?, List.contains_iff_mem, known, if_true, reduceCtorEq, Value.text.injEq,
          false_iff, not_and, not_not]
        rintro rfl
        exact known
      · simp only [RecordKind.unknownKey?, List.contains_iff_mem, known, if_false, Option.some_inj, Value.text.injEq]
        exact ⟨fun same => ⟨same, same ▸ known⟩, And.left⟩
    | _ => simp [RecordKind.unknownKey?]
  simp only [Record.unknownKeys, Record.HasUnknown, List.mem_filterMap, unknown]
  constructor
  · rintro ⟨⟨k, value⟩, member, rfl, new⟩
    exact ⟨⟨value, member⟩, new⟩
  · rintro ⟨⟨value, member⟩, new⟩
    exact ⟨(.text key, value), member, rfl, new⟩

namespace Reading

variable {α β : Type}

/-- What a reading finds wrong. -/
def faults : Reading α → List SchemaFault
  | .ok _ => []
  | .error faults => faults

/-- The unknown keys among the faults of a reading. -/
def unknownKeys (r : Reading α) : List String := r.faults.filterMap SchemaFault.unknownKey?

theorem faults_map (f : α → β) (r : Reading α) : faults (r.map f) = r.faults := by
  cases r <;> rfl

theorem faults_and (a : Reading α) (b : Reading β) : (a.and b).faults = a.faults ++ b.faults := by
  cases a <;> cases b <;> simp [Reading.and, faults]

theorem faults_under (part : String) (r : Reading α) : (r.under part).faults = r.faults.map (SchemaFault.under part) := by
  cases r <;> rfl

theorem faults_butFor (r : Reading α) (fs : List SchemaFault) : (r.butFor fs).faults = r.faults ++ fs := by
  cases r with
  | ok a => cases fs <;> rfl
  | error gs => rfl

theorem unknownKeys_map (f : α → β) (r : Reading α) : unknownKeys (r.map f) = r.unknownKeys := by
  rw [unknownKeys, faults_map, unknownKeys]

theorem unknownKeys_and (a : Reading α) (b : Reading β) : (a.and b).unknownKeys = a.unknownKeys ++ b.unknownKeys := by
  rw [unknownKeys, faults_and, List.filterMap_append, unknownKeys, unknownKeys]

/-- Seen from further out, a key is as unknown as before. -/
theorem unknownKeys_under (part : String) (r : Reading α) : (r.under part).unknownKeys = r.unknownKeys := by
  rw [unknownKeys, faults_under, List.filterMap_map]
  rfl

theorem unknownKeys_butFor (r : Reading α) (fs : List SchemaFault) :
    (r.butFor fs).unknownKeys = r.unknownKeys ++ fs.filterMap SchemaFault.unknownKey? := by
  rw [unknownKeys, faults_butFor, List.filterMap_append, unknownKeys]

theorem unknownKeys_readAll (rs : List (Reading α)) : (readAll rs).unknownKeys = rs.flatMap unknownKeys := by
  induction rs with
  | nil => rfl
  | cons r rs ih => rw [readAll, unknownKeys_map, unknownKeys_and, ih, List.flatMap_cons]

theorem unknownKeys_readText (v : Value) : (readText v).unknownKeys = [] := by
  cases v with
  | bytes b =>
    simp only [readText]
    cases Text.decode b <;> rfl
  | _ => rfl

theorem unknownKeys_readOptional {read : Value → Reading α} {keys : Value → List String} (null : keys .null = [])
    (reads : ∀ v, (read v).unknownKeys = keys v) (v : Value) : (readOptional read v).unknownKeys = keys v := by
  cases v with
  | null => exact null.symm
  | _ => exact (unknownKeys_map ..).trans (reads _)

theorem unknownKeys_readMap {read : Value → Reading α} {keys : Value → List String}
    (reads : ∀ v, (read v).unknownKeys = keys v) (v : Value) :
    (readMap read v).unknownKeys = (mapEntries v).flatMap fun entry => keys entry.2 := by
  cases v with
  | map entries =>
    rw [readMap, unknownKeys_map, unknownKeys_readAll, List.flatMap_map]
    simp only [unknownKeys_under, unknownKeys_and, unknownKeys_readText, List.nil_append, reads, mapEntries]
  | _ => rfl

theorem unknownKeys_readList {read : Value → Reading α} {keys : Value → List String}
    (reads : ∀ v, (read v).unknownKeys = keys v) (v : Value) :
    (readList read v).unknownKeys = (listItems v).flatMap keys := by
  have each (items : List Value) :
      (readAll (items.zipIdx.map fun item => (read item.1).under (toString item.2))).unknownKeys = items.flatMap keys := by
    rw [unknownKeys_readAll, List.flatMap_map]
    simp only [unknownKeys_under, reads]
    rw [← List.flatMap_map Prod.fst keys, List.zipIdx_map_fst]
  cases v with
  | list items | tuple items | set items => exact each items
  | _ => rfl

theorem unknownKeys_keyFaults (kind : RecordKind) (entries : List (Value × Value)) :
    (keyFaults kind.fields entries).filterMap SchemaFault.unknownKey? = (Record.mk kind entries).unknownKeys := by
  rw [keyFaults, List.filterMap_filterMap, Record.unknownKeys]
  congr 1
  funext ⟨key, value⟩
  cases key with
  | text s =>
    simp only [keyFault?, RecordKind.unknownKey?]
    split <;> rfl
  | _ => rfl

theorem unknownKeys_readRecord (name : String) (kind : RecordKind) {read : List (Value × Value) → Reading α}
    {keys : List (Value × Value) → List String} (reads : ∀ entries, (read entries).unknownKeys = keys entries)
    (entries : List (Value × Value)) :
    (readRecord name kind.fields read (.map entries)).unknownKeys =
      keys entries ++ (Record.mk kind entries).unknownKeys := by
  rw [readRecord, unknownKeys_butFor, reads, unknownKeys_keyFaults]

/-- A record without others in it. -/
theorem unknownKeys_readLeaf (name : String) (kind : RecordKind) {read : List (Value × Value) → Reading α}
    (reads : ∀ entries, (read entries).unknownKeys = []) (v : Value) :
    (readRecord name kind.fields read v).unknownKeys = (recordOf kind v).flatMap Record.unknownKeys := by
  cases v with
  | map entries => simpa [recordOf] using unknownKeys_readRecord name kind reads entries
  | _ => rfl

theorem unknownKeys_readField (entries : List (Value × Value)) (name : String) {read : Value → Reading α}
    {keys : Value → List String} (reads : ∀ v, (read v).unknownKeys = keys v) :
    (readField entries name read).unknownKeys = keys (fieldValue entries name) := by
  rw [readField, unknownKeys_under, reads]

theorem unknownKeys_readScope (v : Value) :
    (readScope v).unknownKeys = (recordOf .scope v).flatMap Record.unknownKeys := by
  refine unknownKeys_readLeaf "PolicyContext" .scope (fun entries => ?_) v
  have texts (v : Value) : (readOptional readText v).unknownKeys = [] :=
    unknownKeys_readOptional rfl unknownKeys_readText v
  rw [unknownKeys_map, unknownKeys_and, unknownKeys_readField entries _ texts, unknownKeys_readField entries _ texts]
  rfl

theorem unknownKeys_readSelector (v : Value) :
    (readSelector v).unknownKeys = (recordOf .selector v).flatMap Record.unknownKeys :=
  unknownKeys_readLeaf "PrincipalSelector" .selector (fun _ => rfl) v

theorem unknownKeys_readProperties (entries : List (Value × Value)) (name : String) :
    (readProperties entries name).unknownKeys = [] := by
  have anything (v : Value) : (readMap .ok v).unknownKeys = [] :=
    (unknownKeys_readMap (fun _ => rfl) v).trans (List.flatMap_eq_nil_iff.mpr fun _ _ => rfl)
  have nothing (v : Value) : (readOptional (readMap .ok) v).unknownKeys = [] :=
    unknownKeys_readOptional rfl anything v
  rw [readProperties, unknownKeys_map, unknownKeys_readField entries name nothing]

theorem unknownKeys_readEntry (v : Value) :
    (readEntry v).unknownKeys = (recordOf .entry v).flatMap Record.unknownKeys := by
  refine unknownKeys_readLeaf "TypeRule" .entry (fun entries => ?_) v
  simp only [unknownKeys_map, unknownKeys_and, unknownKeys_readProperties, List.append_nil]

/-- The unknown keys that reading a document finds are those of its records, in their order. -/
theorem unknownKeys_ofValue (v : Value) : (ofValue v).unknownKeys = Document.unknownKeys v := by
  have types (v : Value) : (readMap (readList readEntry) v).unknownKeys =
      (mapEntries v).flatMap fun type => (listItems type.2).flatMap fun item =>
        (recordOf .entry item).flatMap Record.unknownKeys :=
    unknownKeys_readMap (unknownKeys_readList unknownKeys_readEntry) v
  cases v with
  | map entries =>
    refine (unknownKeys_readRecord "PolicyDocument" .document (fun _ => rfl) entries).trans ?_
    simp only [unknownKeys_map, unknownKeys_and,
      unknownKeys_readField entries _ (unknownKeys_readOptional rfl unknownKeys_readText),
      unknownKeys_readField entries _ (unknownKeys_readOptional rfl unknownKeys_readScope),
      unknownKeys_readField entries _ (unknownKeys_readOptional rfl unknownKeys_readSelector),
      unknownKeys_readField entries _ (unknownKeys_readOptional rfl types)]
    simp [Document.unknownKeys, records, List.flatMap_assoc]
  | _ => rfl

end Reading

theorem head?_intercalate (between : List Char) {first : List Char} (rest : List (List Char)) (ne : first ≠ []) :
    (between.intercalate (first :: rest)).head? = first.head? := by
  cases rest with
  | nil => simp
  | cons next rest => rw [List.intercalate_cons_cons, List.append_assoc, List.head?_append_of_ne_nil _ ne]

/-- A message begins with the outermost part of the way to its fault. -/
theorem head?_message_under {part : String} (f : SchemaFault) (ne : part ≠ "") :
    (f.under part).message.toList.head? = part.toList.head? := by
  have some : part.toList ≠ [] := fun empty => ne (String.toList_eq_nil_iff.mp empty)
  obtain ⟨c, first⟩ := Option.ne_none_iff_exists'.mp (mt List.head?_eq_none_iff.mp some)
  have way := (head?_intercalate ['.'] (f.location.map String.toList) some).trans first
  simp [SchemaFault.message, SchemaFault.under, String.toList_intercalate, List.head?_append, way, first]

/-- Data that JSON can hold. -/
inductive IsJson : Value → Prop
  | null : IsJson .null
  | bool (b : Bool) : IsJson (.bool b)
  | int (n : Int) : IsJson (.int n)
  | float (x : Binary64) : IsJson (.float x)
  | text (s : String) : IsJson (.text s)
  | list {items : List Value} (each : ∀ item ∈ items, IsJson item) : IsJson (.list items)
  | map {entries : List (Value × Value)} (keys : ∀ entry ∈ entries, ∃ key, entry.1 = .text key)
      (each : ∀ entry ∈ entries, IsJson entry.2) : IsJson (.map entries)

/-- No fault but an unknown key is told as one. The message of any other begins with a field of the document, unless the
data is no map at all. -/
theorem not_told_unknown_of_known {v : Value} (json : IsJson v) {f : SchemaFault} (found : f ∈ (ofValue v).faults)
    (known : f.unknownKey? = none) : ¬"Unknown property: ".toList <+: f.message.toList := by
  intro told
  have first : f.message.toList.head? = some 'U' := by
    obtain ⟨rest, same⟩ := told
    rw [← same, List.head?_append]
    rfl
  cases json with
  | @map entries keys each =>
    have inField {α : Type} {name : String} {read : Value → Reading α} (ne : name ≠ "") (c : Char)
        (starts : name.toList.head? = some c) (other : c ≠ 'U') (inside : f ∈ (readField entries name read).faults) :
        False := by
      rw [readField, Reading.faults_under] at inside
      obtain ⟨g, _, rfl⟩ := List.mem_map.mp inside
      rw [head?_message_under g ne, starts] at first
      exact other (Option.some.inj first)
    have split : f ∈ _ ++ keyFaults RecordKind.document.fields entries := (Reading.faults_butFor ..) ▸ found
    rcases List.mem_append.mp split with inside | atKey
    · simp only [Reading.faults_map, Reading.faults_and, List.mem_append] at inside
      rcases inside with here | here | here | here | here
      · exact inField (by decide) 'd' rfl (by decide) here
      · exact inField (by decide) 'c' rfl (by decide) here
      · exact inField (by decide) 'b' rfl (by decide) here
      · exact inField (by decide) 'n' rfl (by decide) here
      · exact inField (by decide) 'f' rfl (by decide) here
    · obtain ⟨⟨key, value⟩, member, fault⟩ := List.mem_filterMap.mp atKey
      obtain ⟨s, rfl⟩ : ∃ s, key = .text s := keys _ member
      simp only [keyFault?] at fault
      split at fault
      · simp at fault
      · obtain rfl := Option.some.inj fault
        simp [SchemaFault.unknownKey?] at known
  | _ =>
    obtain rfl : f = ⟨[], .record "PolicyDocument"⟩ := List.mem_singleton.mp found
    exact absurd first (by decide +kernel)

theorem faultsMessage_of_unknown {faults : List SchemaFault} {key : String}
    (first : (faults.filterMap SchemaFault.unknownKey?).head? = some key) :
    faultsMessage faults = "Unknown property: " ++ key := by
  rw [List.head?_filterMap] at first
  simp only [faultsMessage, first]

theorem faultsMessage_of_known {faults : List SchemaFault} (known : faults.filterMap SchemaFault.unknownKey? = []) :
    faultsMessage faults = (faults.head?.map SchemaFault.message).getD "" := by
  have none : faults.findSome? SchemaFault.unknownKey? = none := by rw [← List.head?_filterMap, known, List.head?_nil]
  simp only [faultsMessage, none]

/-- If any record of the data has a key that is none of its fields, no document is read, and the first such key is told,
whatever else is wrong. If none has one, as in JSON, what is told is never that a key is unknown. -/
theorem unknown_key_told (v : Value) :
    ((∃ r ∈ records v, ∃ key, r.HasUnknown key) → ∃ first faults, (unknownKeys v).head? = some first ∧
      ofValue v = .error faults ∧ faultsMessage faults = "Unknown property: " ++ first) ∧
    (IsJson v → (∀ r ∈ records v, ∀ key, ¬r.HasUnknown key) → ∀ faults, ofValue v = .error faults →
      ¬"Unknown property: ".toList <+: (faultsMessage faults).toList) := by
  have same := Reading.unknownKeys_ofValue v
  constructor
  · rintro ⟨r, member, key, unknown⟩
    have listed : key ∈ unknownKeys v := List.mem_flatMap.mpr ⟨r, member, Record.mem_unknownKeys.mpr unknown⟩
    obtain ⟨first, rest, found⟩ := List.exists_cons_of_ne_nil (List.ne_nil_of_mem listed)
    rw [found] at same ⊢
    cases read : ofValue v with
    | ok d => simp [read, Reading.unknownKeys, Reading.faults] at same
    | error faults =>
      have atHead : (faults.filterMap SchemaFault.unknownKey?).head? = some first := by
        rw [read] at same
        exact congrArg List.head? same
      exact ⟨first, faults, rfl, rfl, faultsMessage_of_unknown atHead⟩
  · intro json known faults failed
    have none : unknownKeys v = [] := by
      refine List.flatMap_eq_nil_iff.mpr fun r member => List.eq_nil_iff_forall_not_mem.mpr fun key listed => ?_
      exact known r member key (Record.mem_unknownKeys.mp listed)
    have all : faults.filterMap SchemaFault.unknownKey? = [] := by
      rw [none, failed] at same
      exact same
    rw [faultsMessage_of_known all]
    cases faults with
    | nil => decide
    | cons f rest =>
      refine not_told_unknown_of_known json (by simp [failed, Reading.faults]) ?_
      exact List.filterMap_eq_nil_iff.mp all f (List.mem_cons_self ..)

/-- Data that is wrong at several places. One key is unknown deep inside it, and one at its end. -/
def misspelt : List (Value × Value) :=
  [(.text "description", .int 3), (.text "kind", .null),
    (.text "for", .map [(.text "job", .list [.map [(.text "match", .int 3), (.text "alow", .text "read")]])])]

theorem misspelt_key_told :
    (∃ faults, ofValue (.map misspelt) = .error faults ∧ faultsMessage faults = "Unknown property: alow") ∧
      ∃ faults, ofValue (.map [(.text "by", .int 3)]) = .error faults ∧
        ¬"Unknown property: ".toList <+: (faultsMessage faults).toList := by
  constructor
  · obtain ⟨first, faults, atHead, failed, told⟩ := (unknown_key_told (.map misspelt)).1
      ⟨⟨.document, misspelt⟩, by simp [records], "kind", ⟨.null, by simp [misspelt]⟩, by decide⟩
    obtain rfl : "alow" = first := Option.some.inj ((by decide +kernel : some "alow" = _).trans atHead)
    exact ⟨faults, failed, told⟩
  · have json : IsJson (.map [(.text "by", .int 3)]) := .map (by simp) (by simpa using IsJson.int 3)
    have none : unknownKeys (.map [(.text "by", .int 3)]) = [] := by decide +kernel
    have known : ∀ r ∈ records (.map [(.text "by", .int 3)]), ∀ key, ¬r.HasUnknown key := by
      intro r member key unknown
      have listed : key ∈ unknownKeys (.map [(.text "by", .int 3)]) :=
        List.mem_flatMap.mpr ⟨r, member, Record.mem_unknownKeys.mpr unknown⟩
      simp [none] at listed
    have wrong : (ofValue (.map [(.text "by", .int 3)])).faults ≠ [] := by decide +kernel
    cases read : ofValue (.map [(.text "by", .int 3)]) with
    | ok d => exact absurd (congrArg Reading.faults read) wrong
    | error faults => exact ⟨faults, rfl, (unknown_key_told _).2 json known faults read⟩

end AccessPolicy.Document
