import Continuity.Document.Reader

/-! # Documents read once

A cache reads every file at most once and keeps the document, whatever becomes of the file, until
it is cleared. Readings are numbered, so that two readings of one file can be told apart. One can
wait for a file to be read, or ask for it and let others go on until it can be read.
-/

namespace Continuity.Document

/-- A document as it was read, and how many readings came before. -/
structure Reading where
  number : Nat
  document : Document
  deriving Inhabited

/-- The documents read so far. -/
structure Cache where
  readings : List (Path × Reading) := []
  count : Nat := 0
  session : Yaml.Session := {}
  deriving Inhabited

/-- A request for a file: its reading if there is one already, or else the path of a file that is
still to be read. -/
inductive Request where
  | answered (reading : Reading)
  | waiting (path : Path)
  deriving Inhabited

namespace Cache

/-- The reading of the file at an absolute path. -/
def find? (c : Cache) (path : Path) : Option Reading := c.readings.lookup path

/-- The reading of the file at an absolute path, which is read if it has not been before. -/
def load (c : Cache) (tree : FileTree) (root path : Path) :
    Except LoadFault Reading × Cache :=
  match c.find? path with
  | some reading => (.ok reading, c)
  | none =>
    match Document.read tree root c.session path with
    | (.error e, session) => (.error e, { c with session })
    | (.ok document, session) =>
      let reading : Reading := ⟨c.count, document⟩
      (.ok reading, ⟨c.readings ++ [(path, reading)], c.count + 1, session⟩)

/-- Asks for the file at an absolute path, which is not read yet. -/
def request (c : Cache) (path : Path) : Request :=
  match c.find? path with
  | some reading => .answered reading
  | none => .waiting path

/-- The readings with one more, which takes the place of an earlier one of the same file. -/
def assign (path : Path) (reading : Reading) : List (Path × Reading) → List (Path × Reading)
  | [] => [(path, reading)]
  | (other, old) :: rest =>
    if other == path then (other, reading) :: rest else (other, old) :: assign path reading rest

/-- Answers a request, now that the file can be read. -/
def answer (c : Cache) (tree : FileTree) (root : Path) :
    Request → Except LoadFault Reading × Cache
  | .answered reading => (.ok reading, c)
  | .waiting path =>
    match Document.read tree root c.session path with
    | (.error e, session) => (.error e, { c with session })
    | (.ok document, session) =>
      let reading : Reading := ⟨c.count, document⟩
      (.ok reading, ⟨assign path reading c.readings, c.count + 1, session⟩)

/-- Forgets all documents. -/
def clear (c : Cache) : Cache := { c with readings := [] }

end Cache

end Continuity.Document
