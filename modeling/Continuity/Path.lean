import Continuity.Text.Blank

/-! # Paths

A path is a root, or none, and the names that lead on from there. Doubled strokes and names for
"here" are dropped when a path is read; names for "up" are kept until it is resolved.
-/

namespace Continuity

/-- Where a path begins. Two strokes in front are a root of their own, more than two are not. -/
inductive PathRoot where
  | relative
  | absolute
  | double
  deriving Repr, DecidableEq, Inhabited

/-- A path. -/
structure Path where
  root : PathRoot
  parts : List String
  deriving Repr, DecidableEq, Inhabited

namespace Path

/-- The text of a root. -/
def rootText : PathRoot → String
  | .relative => ""
  | .absolute => "/"
  | .double => "//"

/-- The root that a text begins with. -/
def rootOf : List Char → PathRoot
  | '/' :: '/' :: '/' :: _ => .absolute
  | '/' :: '/' :: _ => .double
  | '/' :: _ => .absolute
  | _ => .relative

/-- The names that lead somewhere. -/
def namesOf (text : List Char) : List String :=
  ((Text.splitOn '/' text).filter fun name => !name.isEmpty && name != ['.']).map String.ofList

/-- The path that a text is. -/
def ofChars (text : List Char) : Path := ⟨rootOf text, namesOf text⟩

/-- The path that a string is. -/
def ofString (text : String) : Path := ofChars text.toList

/-- The path as text; the path that leads nowhere is a dot. -/
def toString (p : Path) : String :=
  let text := rootText p.root ++ "/".intercalate p.parts
  if text.isEmpty then "." else text

instance : ToString Path := ⟨toString⟩

/-- The path does not depend on where one stands. -/
def isAbsolute (p : Path) : Bool := p.root != .relative

/-- The last name of a path. -/
def name (p : Path) : String := p.parts.getLastD ""

/-- A name's last dot and what follows it, unless the name begins or ends with that dot. -/
def suffixChars (name : List Char) : List Char :=
  let tail := name.reverse.takeWhile (· != '.')
  let stem := (name.reverse.dropWhile (· != '.')).drop 1
  if stem.isEmpty || tail.isEmpty then [] else '.' :: tail.reverse

/-- The ending of a path's last name, its dot included. -/
def suffix (p : Path) : String := String.ofList (suffixChars p.name.toList)

/-- A path's last name without its ending. -/
def stem (p : Path) : String :=
  String.ofList (p.name.toList.take (p.name.length - p.suffix.length))

/-- The directory of a path. -/
def parent (p : Path) : Path := ⟨p.root, p.parts.dropLast⟩

/-- The directories above a path, the nearest first. -/
def parents (p : Path) : List Path :=
  (List.range p.parts.length).reverse.map fun n => ⟨p.root, p.parts.take n⟩

/-- One path followed from another. -/
def append (p q : Path) : Path := if q.isAbsolute then q else ⟨p.root, p.parts ++ q.parts⟩

instance : Append Path := ⟨append⟩

/-- The names by which paths are ordered: a root counts as a name. -/
def sortKey (p : Path) : List String :=
  if p.isAbsolute then rootText p.root :: p.parts else p.parts

/-- The order of paths. -/
def le (p q : Path) : Bool := !q.sortKey.lex p.sortKey fun a b => decide (a < b)

/-- What is left of a list after another one at its front. -/
def dropFront? : List String → List String → Option (List String)
  | [], names => some names
  | _ :: _, [] => none
  | a :: front, b :: names => if a == b then dropFront? front names else none

/-- The way from a directory to a path below it, by their names alone. -/
def relativeTo? (p base : Path) : Option Path :=
  if p.root == base.root then (dropFront? base.parts p.parts).map fun rest => ⟨.relative, rest⟩
  else none

/-- How a path is written inside a project: from the project's root when it lies there. -/
def within (p root : Path) : String := ((p.relativeTo? root).getD p).toString

/-- One name followed from a path whose names are given in reverse, as far up as names for "up" can
lead without knowing where one stands. -/
def normalStep (rooted : Bool) : List String → String → List String
  | [], name => if name == ".." && rooted then [] else [name]
  | last :: rest, name =>
    if name != ".." || last == ".." then name :: last :: rest else rest

/-- The path with names for "up" at most at its front. -/
def normalize (p : Path) : Path :=
  { p with parts := (p.parts.foldl (normalStep p.isAbsolute) []).reverse }

/-- The directory that a text names up to its last stroke. -/
def directoryOfChars (text : List Char) : Path :=
  ofChars (text.reverse.dropWhile (· != '/')).reverse

/-- One name followed from a path whose names are given in reverse. -/
def step (reversed : List String) (name : String) : List String :=
  if name == ".." then reversed.tail else name :: reversed

/-- The absolute path that a path means when one stands in `base`, without names for "up". -/
def resolve (base p : Path) : Path :=
  ⟨.absolute, ((base ++ p).parts.foldl step []).reverse⟩

end Path

end Continuity
