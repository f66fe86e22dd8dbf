import Continuity.Markdown.LinkPart

/-! # Lines of a document

Each line keeps its extent, where its text begins, and how deep it is indented. Inside a quotation
or a list item the same line begins further right and its indentation is counted from there.
-/

namespace Continuity.Markdown

/-- A line of the source as the block that holds it sees it. -/
structure Line where
  start : Nat
  stop : Nat
  /-- The number of gap characters at the start. -/
  shift : Nat
  /-- The columns they take; negative where the line only continues a paragraph. -/
  indent : Int
  /-- The column at which the line starts, for the width of tabs. -/
  base : Nat
  deriving Repr, DecidableEq, Inhabited

namespace Line

/-- The position of the first character that is no gap. -/
def textStart (l : Line) : Nat := l.start + l.shift

/-- The line holds nothing but gaps. -/
def isEmpty (l : Line) : Bool := l.stop ≤ l.textStart

/-- The column after a tab at a column. -/
def afterTab (column : Nat) : Nat := column + 4 - column % 4

/-- Splits a text into lines, from a line that starts at `start` and of which `shift` gaps taking
`width` columns have been read. A last line of gaps alone is no line. -/
def split (start shift width : Nat) (inText : Bool) (pos : Nat) : List Char → List Line
  | [] => if inText then [⟨start, pos, shift, width, 0⟩] else []
  | c :: rest =>
    if c == '\n' then
      ⟨start, pos, shift, width, 0⟩ :: split (pos + 1) 0 0 false (pos + 1) rest
    else if !inText && c == '\t' then split start (shift + 1) (afterTab width) false (pos + 1) rest
    else if !inText && c == ' ' then split start (shift + 1) (width + 1) false (pos + 1) rest
    else split start shift width true (pos + 1) rest

/-- The lines of a text. -/
def ofText (text : List Char) : Array Line := (split 0 0 0 false 0 text).toArray

end Line

/-- What a block being read sees: the source, its lines, and the indentation of the blocks
around it. -/
structure Scope where
  src : Array Char
  lines : Array Line
  /-- The line at which the scope ends. -/
  lineCount : Nat
  /-- The indentation that the content of the innermost list item must have. -/
  indent : Int
  /-- The indentation of the list around that item; negative outside lists. -/
  listIndent : Int

namespace Scope

/-- A line; past the last one, an empty line at the end of the source. -/
def line (s : Scope) (i : Nat) : Line :=
  s.lines.getD i ⟨s.src.size, s.src.size, 0, 0, 0⟩

/-- The line holds nothing but gaps. -/
def isEmpty (s : Scope) (i : Nat) : Bool := (s.line i).isEmpty

/-- The text of a line from its first character that is no gap. -/
def textOf (s : Scope) (i : Nat) : List Char :=
  slice s.src (s.line i).textStart (s.line i).stop

/-- The first character of a line that is no gap. -/
def firstChar? (s : Scope) (i : Nat) : Option Char :=
  let l := s.line i
  if l.isEmpty then none else s.src[l.textStart]?

/-- The line is indented deep enough to be code. -/
def isCodeIndented (s : Scope) (i : Nat) : Bool := (s.line i).indent - s.indent ≥ 4

/-- The first line from `i` on that is not empty, or the end of the scope. -/
def skipEmpty (s : Scope) : (fuel : Nat) → Nat → Nat
  | 0, i => i
  | fuel + 1, i => if i < s.lineCount && s.isEmpty i then s.skipEmpty fuel (i + 1) else i

/-- Removes up to `indent` columns at the front of a line: the position reached and the columns a
tab took too many. -/
def dedent (s : Scope) (l : Line) (stop : Nat) (indent : Int) :
    (fuel : Nat) → (width : Nat) → (pos : Nat) → Nat × Nat
  | 0, width, pos => (pos, width - indent.toNat)
  | fuel + 1, width, pos =>
    if stop ≤ pos || (width : Int) ≥ indent then (pos, width - indent.toNat)
    else match s.src[pos]? with
      | some '\t' => s.dedent l stop indent fuel (width + 4 - (width + l.base) % 4) (pos + 1)
      | some ' ' => s.dedent l stop indent fuel (width + 1) (pos + 1)
      | _ =>
        if pos - l.start < l.shift then s.dedent l stop indent fuel (width + 1) (pos + 1)
        else (pos, width - indent.toNat)

/-- The text of a line without `indent` columns of its indentation. -/
def dedented (s : Scope) (i : Nat) (indent : Int) (withNewline : Bool) : List Char :=
  let l := s.line i
  let stop := if withNewline then l.stop + 1 else l.stop
  let (pos, surplus) := s.dedent l stop indent (stop - l.start) 0 l.start
  List.replicate surplus ' ' ++ slice s.src pos stop

/-- The text of several lines without `indent` columns of each line's indentation. -/
def text (s : Scope) (first : Nat) (indent : Int) (lastNewline : Bool) : (count : Nat) → List Char
  | 0 => []
  | 1 => s.dedented first indent lastNewline
  | count + 1 => s.dedented first indent true ++ s.text (first + 1) indent lastNewline count

end Scope

end Continuity.Markdown
