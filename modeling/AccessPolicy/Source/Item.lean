import AccessPolicy.Document.Schema
import AccessPolicy.Source.Part
import AccessPolicy.Text.Ranges
import AccessPolicy.Yaml.Load

namespace AccessPolicy.Source

/-- The words before the name of a property that is not known. -/
def unknownLead : List Char := "Unable to find property".toList

/-- The words behind the name of a property that is not known. -/
def unknownTail : List Char := "on class".toList

/-- Whether a text starts with a blank and given words. -/
def startsBlankThen (words : List Char) : List Char → Bool
  | c :: rest => Text.isBlank c && words.isPrefixOf rest
  | [] => false

/-- The longest beginning of a text that stays in its line, is not empty, and is followed by a blank and the words
behind a name. -/
def nameAhead? (text : List Char) : Option (List Char) :=
  let lengths := (List.range (text.takeWhile (· != '\n')).length).map (· + 1)
  (lengths.reverse.find? fun n => startsBlankThen unknownTail (text.drop n)).map text.take

/-- The name of the property that a text at its start says is not known. -/
def unknownHere? (text : List Char) : Option (List Char) :=
  match unknownLead.isPrefixOf text, text.drop unknownLead.length with
  | true, c :: rest => if Text.isBlank c then nameAhead? rest else none
  | _, _ => none

/-- The name of the property that a text says is not known, at the first place where it says so. -/
def unknownProperty? : List Char → Option (List Char)
  | [] => none
  | c :: rest => (unknownHere? (c :: rest)).or (unknownProperty? rest)

/-- A text as it is told: in short if it says that a property is not known. -/
def shorten (text : String) : String :=
  match unknownProperty? text.toList with
  | some name => "Unknown property: " ++ String.ofList name
  | none => text

/-- A failure in words: what is said of it, what is said of its cause, and whether it is one of those that tell a
place, which always say something. -/
structure Report where
  message : String
  cause : Option String
  isMarked : Bool
deriving DecidableEq, Repr

/-- What is told of a failure: what is said of its cause if there is one, else what is said of itself, if that is
anything. -/
def Report.explanation? (r : Report) : Option String :=
  let words := match r.cause with
    | some cause => some cause
    | none => if r.message.isEmpty && !r.isMarked then none else some r.message
  words.map shorten

/-- How far a reported failure reaches: a failure of the text of an item, a failure of the item, or one that ends
everything. -/
inductive Reach where
  | markup
  | item
  | all
deriving DecidableEq, Repr

/-- Why there is no item. -/
inductive Trouble where
  | markup (text : List Char) (failure : Yaml.Failure)
  | schema (faults : List Document.SchemaFault)
  | encoding (fault : Text.Utf8Fault)
  | closed
  | reported (name : String) (reach : Reach) (report : Report)
deriving Repr

/-- What is said where a file is read that has been closed. -/
def closedMessage : String := "I/O operation on closed file."

/-- Whether a failure to read data is one of the text's form. -/
def isMarkup : Yaml.Failure → Bool
  | .scalar _ => false
  | _ => true

/-- What is told of a trouble that concerns only its item; none if it ends everything. Trouble with the form of
the text and reports about it are told in short, all else is told in full. -/
def Trouble.wording? : Trouble → Option String
  | markup text failure => if isMarkup failure then (failure.message? text).map shorten else failure.message? text
  | schema faults => some (Document.faultsMessage faults)
  | encoding fault => some fault.message
  | closed => some closedMessage
  | reported _ .markup report => some (report.explanation?.getD "None")
  | reported _ .item report => some report.message
  | reported _ .all _ => none

/-- One item. -/
inductive Item where
  | document (d : Document)
  | data (v : Value)
deriving Repr

/-- What comes of asking for the next item. -/
inductive Outcome where
  | ended
  | unreadable
  | item (i : Item)
  | failed (t : Trouble)
deriving Repr

/-- The item that data is: a map has to be a document. -/
def Outcome.ofData : Value → Outcome
  | .map entries =>
    match Document.ofValue (.map entries) with
    | .ok d => item (.document d)
    | .error faults => failed (.schema faults)
  | v => item (.data v)

/-- The outcome with maps read as documents. -/
def Outcome.convert : Outcome → Outcome
  | item (.data v) => ofData v
  | o => o

/-- The text of a part behind as many empty lines as stand before it, so that places in it are those in the
source. -/
def Part.padded (p : Part) : List Char :=
  List.replicate p.start '\n' ++ p.text

/-- The data of a part. -/
def Part.load (p : Part) : Except Trouble Value :=
  (Yaml.load p.padded).mapError (.markup p.padded)

/-- The item of a part. -/
def Part.outcome (p : Part) : Outcome :=
  match p.load with
  | .ok v => .ofData v
  | .error t => .failed t

end AccessPolicy.Source
