import AccessPolicy.Collection.PathPattern
import AccessPolicy.Source

namespace AccessPolicy

/-- A folder at a place in a tree, the top of which has a name. -/
structure Folder where
  top : String
  place : Place

namespace Folder

/-- Why a folder gives no sources. -/
inductive Fault where
  | missing (path : String)
  | overlong (path : String)
  | doubleStar
deriving DecidableEq, Repr

/-- The wording of a fault. -/
def Fault.message : Fault → String
  | missing path => "Policy directory not found: " ++ path
  | overlong path => (Source.OpenFault.absent .overlong path).message
  | doubleStar => "Invalid pattern: '**' can only be an entire path component"

/-- The ending of the names of policy files. -/
def policyExtension : String := ".aclpolicy"

/-- The folder at the top of a tree. -/
def ofTree (top : String) (tree : FileTree) : Folder :=
  ⟨top, tree.top⟩

/-- A path from the top, in writing. -/
def pathText (f : Folder) (path : List String) : String :=
  String.intercalate "/" (f.top :: path)

/-- The source under a path below the folder. -/
def source (f : Folder) (path : String) : Source :=
  let names := pathNames path
  .ofPath (f.pathText (f.place.path ++ names)) (f.place.stored names)

/-- The folder under a path below this one. -/
def inside (f : Folder) (path : String) : Except Fault Folder :=
  let names := pathNames path
  let full := f.pathText (f.place.path ++ names)
  match f.place.follow names with
  | .ok place => if place.isFolder then .ok { f with place } else .error (.missing full)
  | .error .overlong => .error (.overlong full)
  | .error _ => .error (.missing full)

/-- Whether a path comes before another: at the first difference its name is the smaller one, or it ends. -/
def comesBefore : List String → List String → Bool
  | _, [] => false
  | [], _ :: _ => true
  | a :: as, b :: bs => a < b || (a == b && comesBefore as bs)

/-- The sources in a folder whose paths end as given. The ending may go on to folders below. -/
def sources (f : Folder) (extension : String) : Except Fault (List Source) :=
  match PathPattern.read? ("*" ++ extension) with
  | none => .error .doubleStar
  | some pattern =>
    let found := (pattern.places f.place).mergeSort fun p q => !comesBefore q.path p.path
    .ok (found.map fun p => .ofPath (f.pathText p.path) (p.stored []))

end Folder

end AccessPolicy
