/-! # Offsets, lines and columns

A line index answers where an offset of a text lies, and where a line begins and ends. Offsets
count characters from zero, lines and columns from one. An offset outside the text is clamped to
the nearest end.
-/

namespace Continuity.Text

/-- A place in a text. -/
structure Point where
  line : Nat
  column : Nat
  offset : Nat
  deriving Repr, DecidableEq, Inhabited

/-- A stretch of a text, from `start` up to `stop`. -/
structure Span where
  start : Point
  stop : Point
  deriving Repr, DecidableEq, Inhabited

/-- The offsets just past each line feed, the text beginning at `offset`. -/
def offsetsPastNewlines (offset : Nat) : List Char → List Nat
  | [] => []
  | c :: rest =>
    if c == '\n' then (offset + 1) :: offsetsPastNewlines (offset + 1) rest
    else offsetsPastNewlines (offset + 1) rest

/-- The starts of a text's lines after the first, and the text's length. -/
structure LineIndex where
  laterStarts : List Nat
  length : Nat
  deriving Repr, DecidableEq, Inhabited

namespace LineIndex

/-- The line index of a text. -/
def ofText (text : List Char) : LineIndex where
  laterStarts := offsetsPastNewlines 0 text
  length := text.length

/-- The starts of all lines, in order. -/
def starts (index : LineIndex) : List Nat := 0 :: index.laterStarts

/-- The number of lines; a text that ends in a line feed has an empty last line. -/
def lineCount (index : LineIndex) : Nat := index.laterStarts.length + 1

/-- The nearest offset inside the text. -/
def clamp (index : LineIndex) (offset : Int) : Nat := min offset.toNat index.length

/-- The line and column of an offset inside the text, counted from a line's number and start. -/
def locateFrom (line start : Nat) (offset : Nat) : List Nat → Nat × Nat
  | [] => (line, offset - start + 1)
  | next :: later =>
    if next ≤ offset then locateFrom (line + 1) next offset later else (line, offset - start + 1)

/-- The line and column of an offset. -/
def locate (index : LineIndex) (offset : Int) : Nat × Nat :=
  locateFrom 1 0 (index.clamp offset) index.laterStarts

/-- The place of an offset. -/
def point (index : LineIndex) (offset : Int) : Point :=
  let (line, column) := index.locate offset
  ⟨line, column, index.clamp offset⟩

/-- The stretch between two offsets. -/
def span (index : LineIndex) (start stop : Nat) : Span := ⟨index.point start, index.point stop⟩

/-- The offset of a line's first character. Lines before the first count as the first, and lines
past the last begin at the end of the text. -/
def lineStart (index : LineIndex) (line : Int) : Nat :=
  if line > index.lineCount then index.length
  else index.starts.getD (line.toNat - 1) 0

/-- The offset just past a line's last character, its line feed excluded. Lines from the last on
end with the text; line zero and below count back from the last start. -/
def lineEnd? (index : LineIndex) (line : Int) : Option Int :=
  if line ≥ index.lineCount then some index.length
  else
    let position := if line < 0 then line + index.lineCount else line
    if position < 0 then none
    else (index.starts[position.toNat]?).map fun start => (start : Int) - 1

/-- The end of a line that the text has. -/
def lineEnd (index : LineIndex) (line : Nat) : Nat := ((index.lineEnd? line).getD 0).toNat

/-- The offset of a line and column, no further than the end of the text. -/
def offsetOf (index : LineIndex) (line column : Int) : Int :=
  min ((index.lineStart line : Int) + column - 1) index.length

end LineIndex

end Continuity.Text
