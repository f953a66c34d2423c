import AccessPolicy.Document

namespace AccessPolicy.Document

/-- What an entry of the rules violates. -/
inductive EntryViolation where
  | emptyGrant (part : String)
  | grantItem (part kind : String)
  | grantKind (part kind : String)
  | excludedAllow
  | noGrant
  | emptyMatcher (part : String)
  | nullMatcher (part key : String)
  | grantInMatcher (part : String)
  | foreignKey (part key : String)
deriving DecidableEq, Repr

/-- What a document violates. Entries are counted from one. -/
inductive Violation where
  | noSelector
  | twoSelectors
  | emptySelector (part : String)
  | noRules
  | emptyRules
  | emptyType (type : String)
  | entry (type : String) (index : Nat) (violation : EntryViolation)
  | noDescription
deriving DecidableEq, Repr

/-- A section in quotes, with its colon. -/
def sectionText (name : String) : String :=
  "Section '" ++ name ++ ":'"

/-- The wording of what an entry violates. -/
def EntryViolation.text : EntryViolation → String
  | emptyGrant name => sectionText name ++ " should not be empty"
  | grantItem name kind => sectionText name ++ " should contain only Strings, but saw a: " ++ kind
  | grantKind name kind =>
    sectionText name ++ " expected a String or a sequence of Strings, but was a " ++ kind
  | excludedAllow => "'notBy:' policies can only use 'deny:', not 'allow:'"
  | noGrant => "One of 'allow:' or 'deny:' must be present."
  | emptyMatcher name => sectionText name ++ " should not be empty."
  | nullMatcher name key => sectionText name ++ " value for key: '" ++ key ++ "' cannot be null"
  | grantInMatcher name => sectionText name ++ " should not contain 'allow:' or 'deny:'"
  | foreignKey name key => sectionText name ++ " can only be applied to: '" ++ key ++ "'"

/-- The rules of a type, as messages show them. -/
def typeText (type : String) : String :=
  "Type rule 'for: \x7b " ++ type ++ ": [...] \x7d'"

/-- The wording of what a document violates. -/
def Violation.message : Violation → String
  | noSelector => "Required 'by:' or 'notBy:' section was not present"
  | twoSelectors => "Only one of 'by:' or 'notBy:' sections can be present"
  | emptySelector name =>
    sectionText name ++ " is not valid: it must contain 'group:' and/or 'username:' and/or 'urn:'"
  | noRules => "Required 'for:' section was not present"
  | emptyRules => "Section 'for:' should not be empty"
  | emptyType type => typeText type ++ " list should not be empty."
  | entry type index violation => typeText type ++ s!" entry at index [{index}] " ++ violation.text
  | noDescription => "Policy is missing a description"

/-- A check: the first violation, or none. -/
abbrev Check := Option Violation

/-- The first selection that is empty. -/
def emptySelector? (name : String) (s : Option Selector) : Check :=
  match s with
  | some s => if s.isEmpty then some (.emptySelector name) else none
  | none => none

/-- What the selection of a document violates. -/
def selectorViolation? (d : Document) : Check :=
  match d.included, d.excluded with
  | none, none => some .noSelector
  | some _, some _ => some .twoSelectors
  | included, excluded => (emptySelector? "by" included).or (emptySelector? "notBy" excluded)

/-- Whether data is a text. -/
def isText : Value → Bool
  | .text _ => true
  | _ => false

/-- What a grant violates: it is a text, or a list of texts that is not empty. -/
def grantViolation? (name : String) : Value → Option EntryViolation
  | .null | .text _ => none
  | .list [] => some (.emptyGrant name)
  | .list items => (items.find? fun item => !isText item).map fun item => .grantItem name item.kind
  | v => some (.grantKind name v.kind)

/-- What a section of matchers violates. Some sections know one key only. -/
def matcherViolation? (name : String) (only : Option String) : Option Properties → Option EntryViolation
  | none => none
  | some [] => some (.emptyMatcher name)
  | some entries =>
    match entries.find? fun e => e.2.isNull with
    | some (key, _) => some (.nullMatcher name key)
    | none =>
      if entries.any fun e => e.1 == "allow" || e.1 == "deny" then some (.grantInMatcher name)
      else match only with
        | some only => if entries.any fun e => e.1 != only then some (.foreignKey name only) else none
        | none => none

/-- What an entry violates, in a document about those that it selects or about all others. -/
def entryViolation? (inclusive : Bool) (e : Entry) : Option EntryViolation :=
  (grantViolation? "allow" e.allow).or <|
  (grantViolation? "deny" e.deny).or <|
  (if !inclusive && !e.allow.isNull then some .excludedAllow else none).or <|
  (if e.isEmpty then some .noGrant else none).or <|
  (matcherViolation? "contains" (some "tags") e.matchers.contains).or <|
  (matcherViolation? "equals" none e.matchers.equals).or <|
  (matcherViolation? "match" none e.matchers.regex).or <|
  matcherViolation? "subset" none e.matchers.subset

/-- What the first bad one of several entries violates. -/
def entriesViolation? (inclusive : Bool) (type : String) (entries : List Entry) : Check :=
  entries.zipIdx.findSome? fun (e, i) => (entryViolation? inclusive e).map (.entry type (i + 1))

/-- What the rules for a type violate. -/
def typeViolation? (inclusive : Bool) (type : String) (entries : List Entry) : Check :=
  if entries.isEmpty then some (.emptyType type) else entriesViolation? inclusive type entries

/-- What the rules of a document violate. -/
def rulesViolation? (d : Document) : Check :=
  match d.rules with
  | none => some .noRules
  | some ⟨[], _⟩ => some .emptyRules
  | some rules => rules.entries.findSome? fun (type, entries) => typeViolation? d.excluded.isNone type entries

/-- The first rule of the form that a document violates. -/
def violation? (d : Document) : Check :=
  (selectorViolation? d).or <|
  (rulesViolation? d).or <|
  if d.description.isNone then some .noDescription else none

end AccessPolicy.Document
