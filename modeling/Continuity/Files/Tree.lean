import Continuity.Path
import Continuity.Text.Quoted
import Continuity.Text.Utf8

/-! # Trees of files

The files that a run sees, as a value: nothing changes meanwhile, and no path is a link to another.
Paths are absolute and lead from the root; a name is at most 255 bytes long.
-/

namespace Continuity

/-- A file with its content, or a directory with what it holds. -/
inductive FileTree where
  | file (content : List UInt8)
  | directory (entries : List (String × FileTree))
  deriving Inhabited

/-- Why a path cannot be used. -/
inductive FileFault where
  | missing
  | notDirectory
  | isDirectory
  | nameTooLong
  deriving Repr, DecidableEq, Inhabited

namespace FileFault

/-- The wording of a fault. -/
def reason : FileFault → String
  | .missing => "No such file or directory"
  | .notDirectory => "Not a directory"
  | .isDirectory => "Is a directory"
  | .nameTooLong => "File name too long"

/-- The number by which the system knows a fault. -/
def number : FileFault → Nat
  | .missing => 2
  | .notDirectory => 20
  | .isDirectory => 21
  | .nameTooLong => 36

/-- The wording of a fault together with its path. -/
def message (f : FileFault) (path : Path) : String :=
  "[Errno " ++ toString f.number ++ "] " ++ f.reason ++ ": " ++ Text.quoted path.toString

end FileFault

namespace FileTree

/-- The longest name that a file can have, in bytes. -/
def maxNameBytes : Nat := 255

/-- What some names lead to from here, with the directories above, the nearest first. Above the
uppermost directory lies that directory itself. -/
def find (above : List FileTree) : FileTree → List String → Except FileFault FileTree
  | t, [] => .ok t
  | .file _, _ :: _ => .error .notDirectory
  | .directory entries, name :: rest =>
    if name == ".." then
      match above with
      | [] => find [] (.directory entries) rest
      | up :: above => find above up rest
    else if maxNameBytes < name.utf8ByteSize then .error .nameTooLong
    else match entries.lookup name with
      | none => .error .missing
      | some t => find (.directory entries :: above) t rest

/-- What an absolute path leads to. -/
def follow (t : FileTree) (path : Path) : Except FileFault FileTree := find [] t path.parts

/-- The path is that of a file; only a name that is too long makes this question fail. -/
def isFile (t : FileTree) (path : Path) : Except FileFault Bool :=
  match t.follow path with
  | .ok (.file _) => .ok true
  | .ok (.directory _) => .ok false
  | .error .nameTooLong => .error .nameTooLong
  | .error _ => .ok false

/-- The path is that of a directory; only a name that is too long makes this question fail. -/
def isDirectory (t : FileTree) (path : Path) : Except FileFault Bool :=
  match t.follow path with
  | .ok (.file _) => .ok false
  | .ok (.directory _) => .ok true
  | .error .nameTooLong => .error .nameTooLong
  | .error _ => .ok false

/-- The path leads somewhere; only a name that is too long makes this question fail. -/
def holds (t : FileTree) (path : Path) : Except FileFault Bool :=
  match t.follow path with
  | .ok _ => .ok true
  | .error .nameTooLong => .error .nameTooLong
  | .error _ => .ok false

mutual

/-- The names that lead from here to each directory, this one first. -/
def directories : FileTree → List (List String)
  | .file _ => []
  | .directory entries => [] :: directoriesIn entries

/-- The names that lead through each entry to the directories in it. -/
def directoriesIn : List (String × FileTree) → List (List String)
  | [] => []
  | (name, t) :: rest => (directories t).map (name :: ·) ++ directoriesIn rest

end

/-- The content of a file. -/
def read (t : FileTree) (path : Path) : Except FileFault (List UInt8) :=
  match t.follow path with
  | .ok (.file content) => .ok content
  | .ok (.directory _) => .error .isDirectory
  | .error e => .error e

/-- The entries of a directory. -/
def entries : FileTree → List (String × FileTree)
  | .file _ => []
  | .directory entries => entries

/-- The entries with one more, or one replaced. -/
def setEntry (name : String) (t : FileTree) :
    List (String × FileTree) → List (String × FileTree)
  | [] => [(name, t)]
  | (n, old) :: rest => if n == name then (n, t) :: rest else (n, old) :: setEntry name t rest

/-- The tree with something put where a path leads; directories on the way are made. -/
def put (t : FileTree) (new : FileTree) : List String → FileTree
  | [] => new
  | name :: rest =>
    let below := (t.entries.lookup name).getD (.directory [])
    .directory (setEntry name (below.put new rest) t.entries)

/-- The tree without what a path leads to. -/
def remove (t : FileTree) : List String → FileTree
  | [] => t
  | [name] => match t with
    | .directory entries => .directory (entries.filter (·.1 != name))
    | .file content => .file content
  | name :: rest =>
    match t with
    | .directory entries =>
      match entries.lookup name with
      | some below => .directory (setEntry name (below.remove rest) entries)
      | none => .directory entries
    | .file content => .file content

end FileTree

namespace Files

/-- A path that cannot be examined, and why. -/
structure PathFault where
  path : Path
  fault : FileFault
  deriving Repr, DecidableEq

/-- The wording of a fault. -/
def PathFault.message (f : PathFault) : String := f.fault.message f.path

/-- The answer to a question about a path, with the path where there is none. -/
def asking {α : Type} (path : Path) (answer : Except FileFault α) : Except PathFault α :=
  answer.mapError fun fault => ⟨path, fault⟩

end Files

end Continuity
