import AccessPolicy.FileTree
import AccessPolicy.Source.Encoded
import AccessPolicy.Source.Item

namespace AccessPolicy

namespace Source

/-- What a source is read from. -/
inductive Origin where
  | text (content : String)
  | path (path : String) (stored : Stored)
deriving DecidableEq, Repr

/-- Why a file cannot be opened. -/
inductive OpenFault where
  | absent (why : Absence) (path : String)
  | folder (path : String)
  | nullCharacter
deriving DecidableEq, Repr

/-- The wording of a fault. -/
def OpenFault.message : OpenFault → String
  | absent .missing path => "[Errno 2] No such file or directory: " ++ Text.quoted path
  | absent .behindFile path => "[Errno 20] Not a directory: " ++ Text.quoted path
  | absent .overlong path => "[Errno 36] File name too long: " ++ Text.quoted path
  | folder path => "[Errno 21] Is a directory: " ++ Text.quoted path
  | nullCharacter => "embedded null byte"

/-- Opens what stands under a path. No path has a null character in it. -/
def openPath (path : String) (stored : Stored) : Except OpenFault Feed :=
  if path.toList.contains '\x00' then .error .nullCharacter
  else match stored with
    | .absent why => .error (.absent why path)
    | .folder => .error (.folder path)
    | .file bytes => .ok (.ofBytes bytes)

/-- The name of a file: the last part of its path. -/
def fileName (path : String) : String :=
  String.ofList (path.toList.reverse.takeWhile (· != '/')).reverse

/-- The outcomes of reading lines to the end. Where they end with a fault, what precedes it is given up with the
part that it is in. -/
def Feed.outcomes (feed : Feed) : List Outcome :=
  match feed.fault with
  | none => (parts feed.lines).map Part.outcome
  | some fault => ((Pending.startingAt 0).run feed.lines).1.map Part.outcome ++ [.failed (.encoding fault)]

end Source

/-- A source with the identity under which messages about it are recorded. -/
structure Source where
  identity : String
  origin : Source.Origin
deriving DecidableEq, Repr

namespace Source

/-- A text as a source. -/
def ofText (content identity : String) : Source := ⟨identity, .text content⟩

/-- A file as a source, under its name. -/
def ofPath (path : String) (stored : Stored) : Source := ⟨fileName path, .path path stored⟩

/-- Opens a source. -/
def feed (s : Source) : Except OpenFault Feed :=
  match s.origin with
  | .text content => .ok (.ofText content.toList)
  | .path path stored => openPath path stored

/-- The outcomes of reading a source that can be opened to its end. -/
def outcomes (s : Source) : Except OpenFault (List Outcome) :=
  s.feed.map Feed.outcomes

/-- The source in short. -/
def text (s : Source) : String := "<YamlSource " ++ Text.quoted s.identity ++ ">"

end Source

end AccessPolicy
