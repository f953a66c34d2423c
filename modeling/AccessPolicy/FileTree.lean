import AccessPolicy.Text.Line

namespace AccessPolicy

/-- A file with its bytes, or a folder with what stands under the names in it. -/
inductive FileTree where
  | file (bytes : List UInt8)
  | folder (entries : List (String × FileTree))
deriving Repr, Inhabited

/-- Why a path leads nowhere: a name is not there, or it is looked for behind a file, or it is too long for one. -/
inductive Absence where
  | missing
  | behindFile
  | overlong
deriving DecidableEq, Repr

/-- What a path leads to. -/
inductive Stored where
  | absent (why : Absence)
  | folder
  | file (bytes : List UInt8)
deriving DecidableEq, Repr

/-- The names in a path. Between two slashes nothing, or a single dot, is no name. -/
def pathNames (path : String) : List String :=
  ((Text.splitAt '/' path.toList).map String.ofList).filter fun name => name != "" && name != "."

/-- The longest name, in bytes. -/
def longestName : Nat := 255

namespace FileTree

/-- No files. -/
def empty : FileTree :=
  .folder []

/-- Whether it is a folder. -/
def isFolder : FileTree → Bool
  | file _ => false
  | folder _ => true

/-- What stands under the names in a folder. -/
def entries : FileTree → List (String × FileTree)
  | file _ => []
  | folder entries => entries

/-- Gives a name a tree: in place if the name is there, else at the end. -/
def putEntry (name : String) (tree : FileTree) : List (String × FileTree) → List (String × FileTree)
  | [] => [(name, tree)]
  | (n, t) :: rest => if n = name then (name, tree) :: rest else (n, t) :: putEntry name tree rest

/-- Puts a tree where a path leads, with the folders on the way. A folder that is there stays as it is. -/
def put (added : FileTree) : List String → FileTree → FileTree
  | [], old => if added.isFolder && old.isFolder then old else added
  | name :: rest, old =>
    let inner := (old.entries.lookup name).getD empty
    .folder (putEntry name (added.put rest inner) old.entries)

end FileTree

/-- A place in a tree: the path that led there, what stands there, and the folders around it, the nearest
first. -/
structure Place where
  path : List String
  tree : FileTree
  around : List FileTree

/-- The place from which paths start. -/
def FileTree.top (tree : FileTree) : Place :=
  ⟨[], tree, []⟩

namespace Place

/-- Whether a folder stands there. -/
def isFolder (p : Place) : Bool :=
  p.tree.isFolder

/-- The place of a part of the folder that stands there. -/
def part (p : Place) (name : String) (tree : FileTree) : Place :=
  ⟨p.path ++ [name], tree, p.tree :: p.around⟩

/-- The places of all parts. -/
def parts (p : Place) : List Place :=
  p.tree.entries.map fun (name, tree) => p.part name tree

/-- The place that a name leads to; two dots lead to the folder around. -/
def enter (p : Place) (name : String) : Except Absence Place :=
  if !p.isFolder then .error .behindFile
  else if name = ".." then
    match p.around with
    | outer :: around => .ok ⟨p.path ++ [name], outer, around⟩
    | [] => .error .missing
  else if longestName < name.utf8ByteSize then .error .overlong
  else match p.tree.entries.lookup name with
    | some tree => .ok (p.part name tree)
    | none => .error .missing

/-- The place that names lead to, one after the other. -/
def follow (p : Place) (names : List String) : Except Absence Place :=
  names.foldlM enter p

/-- What stands where names lead to. -/
def stored (p : Place) (names : List String) : Stored :=
  match p.follow names with
  | .error why => .absent why
  | .ok found =>
    match found.tree with
    | .file bytes => .file bytes
    | .folder _ => .folder

end Place

end AccessPolicy
