import Continuity.Files.Tree
import Continuity.Files.Wildcard

/-! # Patterns for paths

A pattern is taken apart at its strokes. Two stars stand for any directories on the way, none among
them; other names may hold wildcards. What is followed by a further part must be a directory.
-/

namespace Continuity.Files

/-- Why a pattern cannot be used. -/
inductive GlobFault where
  | empty
  | absolute
  /-- Two stars stand beside something else. -/
  | mixed
  /-- The pattern names no path below the directory where it starts. -/
  | nothing
  /-- The pattern names just the directory where it starts. -/
  | start
  deriving Repr, DecidableEq

/-- The wording of a fault. -/
def GlobFault.message : GlobFault → String
  | .empty => "Unacceptable pattern: ''"
  | .absolute => "Non-relative patterns are unsupported"
  | .mixed => "Invalid pattern: '**' can only be an entire path component"
  | .nothing => "tuple index out of range"
  | .start => "'_TerminatingSelector' object has no attribute 'select_from'"

/-- The sort of failure that a fault is. -/
def GlobFault.sort : GlobFault → String
  | .absolute => "NotImplementedError"
  | .nothing => "IndexError"
  | .start => "AttributeError"
  | .empty | .mixed => "ValueError"

/-- A part of a pattern. -/
inductive GlobPart where
  /-- The directory that the parts before lead to. -/
  | here
  | up
  | anyDirectories
  | name (name : String)
  | wildcard (pieces : List Wildcard)
  deriving Repr, DecidableEq

namespace GlobPart

/-- A name that holds two stars next to each other. -/
def hasDoubleStar : List Char → Bool
  | '*' :: '*' :: _ => true
  | _ :: rest => hasDoubleStar rest
  | [] => false

/-- The part that a name between strokes is. -/
def ofName (name : String) : Except GlobFault GlobPart :=
  if name == "**" then .ok .anyDirectories
  else if name == ".." then .ok .up
  else if hasDoubleStar name.toList then .error .mixed
  else if name.toList.any fun c => c == '*' || c == '?' || c == '[' then
    .ok (.wildcard (Wildcard.parse name))
  else .ok (.name name)

end GlobPart

/-- The parts of a pattern. -/
def globParts (pattern : String) : Except GlobFault (List GlobPart) := do
  let path := Path.ofString pattern
  if pattern.isEmpty then throw .empty
  if path.isAbsolute then throw .absolute
  let parts ← path.parts.mapM GlobPart.ofName
  match parts, pattern.toList.getLast? == some '/' with
  | [], true => throw .start
  | [], false => throw .nothing
  | parts, true => return parts ++ [.here]
  | parts, false => return parts

/-- What a directory holds. -/
def entriesAt (t : FileTree) (path : Path) : List (String × FileTree) :=
  match t.follow path with
  | .ok below => below.entries
  | .error _ => []

/-- The entry is a directory. -/
def isDirectoryEntry : FileTree → Bool
  | .file _ => false
  | .directory _ => true

/-- The paths from a directory that fit the parts of a pattern. -/
def globFrom (t : FileTree) : List GlobPart → Path → Except PathFault (List Path)
  | [], path => .ok [path]
  | .here :: _, path => .ok [path]
  | .up :: rest, path => globFrom t rest (path ++ ⟨.relative, [".."]⟩)
  | .name name :: rest, path => do
    let next := path ++ ⟨.relative, [name]⟩
    let found ← asking next (if rest.isEmpty then t.holds next else t.isDirectory next)
    if found then globFrom t rest next else return []
  | .wildcard pieces :: rest, path => do
    let names := ((entriesAt t path).filter fun (name, below) =>
      (rest.isEmpty || isDirectoryEntry below) &&
        Wildcard.matchesAll pieces name.toList).map (·.1)
    return (← names.mapM fun name => globFrom t rest (path ++ ⟨.relative, [name]⟩)).flatten
  | .anyDirectories :: rest, path => do
    let below := match t.follow path with
      | .ok t => t.directories
      | .error _ => []
    return (← below.mapM fun names => globFrom t rest (path ++ ⟨.relative, names⟩)).flatten

end Continuity.Files
