import Continuity.Failure
import Continuity.Files.Glob
import Continuity.Files.Wildcard
import Continuity.Text.Blank

/-! # Finding the files of a project

The files of a directory are those that fit one of the patterns to be included and none of those to
be excluded, in the order of their paths. Files that are named one by one are taken as they are.
-/

namespace Continuity.Files

/-! ## Excluded files

A file is excluded when its path in the project matches a pattern, a star standing for any
characters, strokes among them. A pattern for everything in a directory also excludes directories
of that name further down.
-/

/-- The directory that a pattern takes everything from. -/
def directoryOf? (pattern : List Char) : Option (List Char) :=
  match pattern.reverse with
  | '*' :: '*' :: '/' :: rest => some rest.reverse
  | _ => none

/-- A pattern excludes a path. -/
def excludes (path : List Char) (pattern : List Char) : Bool :=
  Wildcard.matchesAll (Wildcard.parseFrom 0 pattern) path ||
    match directoryOf? pattern with
    | some directory => (Text.indexOf? ('/' :: directory ++ ['/']) ('/' :: path)).isSome
    | none => false

/-- Some pattern excludes a path. -/
def isExcluded (patterns : List String) (path : String) : Bool :=
  patterns.any fun pattern => excludes path.toList pattern.toList

/-! ## Files that are found -/

/-- Why files cannot be found. -/
inductive DiscoveryFault where
  | pattern (fault : GlobFault)
  | inaccessible (fault : PathFault)
  | missing (target : Path)
  deriving Repr, DecidableEq

/-- The wording of a fault. -/
def DiscoveryFault.message : DiscoveryFault → String
  | .pattern fault => fault.message
  | .inaccessible fault => fault.message
  | .missing target => "File not found: " ++ target.toString

/-- A fault as it is made known. -/
def DiscoveryFault.toFailure (f : DiscoveryFault) : Failure :=
  match f with
  | .pattern fault => .unforeseen fault.sort f.message
  | .inaccessible _ => .unforeseen "OSError" f.message
  | .missing _ => .configuration f.message []

/-- Which files to take. -/
structure Selection where
  included : List String
  excluded : List String
  deriving Repr, DecidableEq, Inhabited

/-- The answer to a question about a path. -/
def examining {α : Type} (path : Path) (answer : Except FileFault α) : Except DiscoveryFault α :=
  (asking path answer).mapError .inaccessible

/-- The paths below a directory that fit a pattern. -/
def glob (t : FileTree) (root : Path) (pattern : String) : Except DiscoveryFault (List Path) := do
  let parts ← (globParts pattern).mapError .pattern
  if ← examining root (t.isDirectory root) then (globFrom t parts root).mapError .inaccessible
  else return []

/-- A path below a directory is that of a file that is not excluded. -/
def isSelected (t : FileTree) (root : Path) (excluded : List String) (path : Path) :
    Except DiscoveryFault Bool := do
  let isFile ← examining path (t.isFile path)
  return isFile && !isExcluded excluded (path.within root)

/-- Paths in their order, each once. -/
def sortPaths (paths : List Path) : List Path := paths.eraseDups.mergeSort Path.le

/-- The files below a directory that fit a pattern and are not excluded. -/
def select (t : FileTree) (root : Path) (excluded : List String) (pattern : String) :
    Except DiscoveryFault (List Path) := do
  let paths ← glob t root pattern
  return (← paths.filterM (isSelected t root excluded)).map (Path.resolve root)

/-- The files of a directory, in the order of their paths. -/
def discover (t : FileTree) (root : Path) (selection : Selection) :
    Except DiscoveryFault (List Path) := do
  let found ← selection.included.mapM (select t root selection.excluded)
  return sortPaths found.flatten

/-- The files that a target stands for: those of a directory, or the file itself. -/
def targetFiles (t : FileTree) (selection : Selection) (here target : Path) :
    Except DiscoveryFault (List Path) := do
  let path := Path.resolve here target
  if ← examining path (t.isDirectory path) then discover t path selection
  else if ← examining path (t.isFile path) then return [path]
  else throw (.missing target)

/-- The files that targets stand for, or those of the project if there are no targets. -/
def resolveTargets (t : FileTree) (here root : Path) (selection : Selection)
    (targets : List Path) : Except DiscoveryFault (List Path) := do
  if targets.isEmpty then discover t root selection
  else return sortPaths (← targets.mapM (targetFiles t selection here)).flatten

end Continuity.Files
