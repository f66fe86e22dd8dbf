import Continuity.Text.Blank

/-! # Front matter

A document may open with a block of data between a line of three hyphens and a line of three
hyphens or dots. Without a closing line there is no front matter.
-/

namespace Continuity.Document

/-- A line that opens front matter, blanks at its end aside. -/
def opensFrontMatter (line : List Char) : Bool := Text.trimEnd line == ['-', '-', '-']

/-- A line that closes front matter, blanks at its end aside. -/
def closesFrontMatter (line : List Char) : Bool :=
  opensFrontMatter line || Text.trimEnd line == ['.', '.', '.']

/-- The lines before the first that closes front matter, that line, and the lines after it. -/
def closeFrontMatter? :
    List (List Char) → Option (List (List Char) × List Char × List (List Char))
  | [] => none
  | line :: rest =>
    if closesFrontMatter line then some ([], line, rest)
    else (closeFrontMatter? rest).map fun (raw, close, body) => (line :: raw, close, body)

/-- The length of some lines with a line feed after each. -/
def linesLength (lines : List (List Char)) : Nat := lines.flatten.length + lines.length

/-- The front matter of a document, if it has one, and the offset at which its body begins. -/
def splitFrontMatter (content : List Char) : Option (List Char) × Nat :=
  match Text.splitOn '\n' content with
  | [] => (none, 0)
  | first :: rest =>
    if opensFrontMatter first then
      match closeFrontMatter? rest with
      | none => (none, 0)
      | some (raw, close, body) =>
        let stop := linesLength (first :: raw) + close.length
        (some (Text.joinWith '\n' raw), if body.isEmpty then stop else stop + 1)
    else (none, 0)

end Continuity.Document
