import AccessPolicy.FileTree
import AccessPolicy.Text.Glob

namespace AccessPolicy

/-- One step of a pattern. -/
inductive PathStep where
  | name (name : String)
  | names (pattern : List Text.GlobPiece)
  | folders
deriving DecidableEq, Repr

/-- A pattern of paths, which may ask for a folder in the end. -/
structure PathPattern where
  steps : List PathStep
  toFolder : Bool
deriving DecidableEq, Repr

/-- Whether a text has two stars in a row. -/
def hasDoubleStar : List Char → Bool
  | '*' :: '*' :: _ => true
  | _ :: rest => hasDoubleStar rest
  | [] => false

/-- Reads one step; none where two stars stand beside something else. -/
def PathStep.read? (step : String) : Option PathStep :=
  if step = "**" then some .folders
  else if hasDoubleStar step.toList then none
  else if step.toList.any fun c => c == '*' || c == '?' || c == '[' then some (.names (Text.glob step.toList))
  else some (.name step)

/-- Reads a pattern, the steps of which stand between slashes. -/
def PathPattern.read? (pattern : String) : Option PathPattern :=
  ((pathNames pattern).mapM PathStep.read?).map fun steps => ⟨steps, pattern.toList.getLast? == some '/'⟩

mutual
/-- The places of a tree, if it is a folder, and of all folders in it. -/
def FileTree.folders (path : List String) (around : List FileTree) : FileTree → List Place
  | .file _ => []
  | .folder entries => ⟨path, .folder entries, around⟩ :: foldersAmong path (.folder entries :: around) entries

/-- The places of all folders in some entries of a folder. -/
def foldersAmong (path : List String) (around : List FileTree) : List (String × FileTree) → List Place
  | [] => []
  | (name, tree) :: rest => tree.folders (path ++ [name]) around ++ foldersAmong path around rest
end

/-- The places one step away. -/
def PathStep.places (p : Place) : PathStep → List Place
  | .name wanted => (p.enter wanted).toOption.toList
  | .names pattern => p.parts.filter fun q => Text.globFits pattern (q.path.getLastD "").toList
  | .folders => p.tree.folders p.path p.around

/-- The places that steps lead to. Whatever is not the end has to be a folder. -/
def placesBehind (toFolder : Bool) : List PathStep → Place → List Place
  | [], p => [p]
  | step :: rest, p =>
    let reached := (step.places p).filter fun q => q.isFolder || (rest.isEmpty && !toFolder)
    reached.flatMap (placesBehind toFolder rest)

/-- The places that a pattern leads to, each once. -/
def PathPattern.places (pattern : PathPattern) (p : Place) : List Place :=
  (placesBehind pattern.toFolder pattern.steps p).eraseDupsBy fun q r => q.path == r.path

end AccessPolicy
