import Continuity.Text.Blank

/-! # Places in a YAML text

A cursor is what is left of a text, with the line and column that have been reached. Lines are
counted by line feeds; some further characters end lines without being counted.
-/

namespace Continuity.Yaml

/-- What is left of a text, and where it begins. -/
structure Cursor where
  rest : List Char
  line : Nat := 0
  column : Nat := 0
  index : Nat := 0
  deriving Repr, DecidableEq, Inhabited

/-- A character that ends a line. -/
def isBreak (c : Char) : Bool := c == '\n' || c == '\r' || c == '\x85' || c == '\u2028' || c == '\u2029'

/-- The end of a line or of the text. -/
def endsLine : Option Char → Bool
  | none => true
  | some c => c == '\n' || c == '\r' || c == '\x85'

/-- A blank, or the end of a line or of the text. -/
def endsWord (c : Option Char) : Bool := endsLine c || c == some ' ' || c == some '\t'

/-- A space, or any end of a line or of the text. -/
def endsField : Option Char → Bool
  | none => true
  | some c => c == ' ' || isBreak c

namespace Cursor

/-- The cursor after the next character. -/
def next (c : Cursor) : Cursor :=
  match c.rest with
  | [] => c
  | '\n' :: rest => ⟨rest, c.line + 1, 0, c.index + 1⟩
  | '\uFEFF' :: rest => ⟨rest, c.line, c.column, c.index + 1⟩
  | _ :: rest => ⟨rest, c.line, c.column + 1, c.index + 1⟩

/-- The cursor after some characters. -/
def skip (c : Cursor) : (count : Nat) → Cursor
  | 0 => c
  | count + 1 => c.next.skip count

/-- The next character. -/
def peek (c : Cursor) : Option Char := c.rest.head?

/-- A later character. -/
def peekAt (c : Cursor) (ahead : Nat) : Option Char := c.rest[ahead]?

/-- The next character is this one. -/
def at? (c : Cursor) (char : Char) : Bool := c.peek == some char

/-- The characters up to the first that a test refuses, and the cursor there. -/
def takeWhile (c : Cursor) (test : Char → Bool) : List Char × Cursor :=
  let taken := c.rest.takeWhile test
  (taken, c.skip taken.length)

/-- The cursor at the first character that a test refuses. -/
def dropWhile (c : Cursor) (test : Char → Bool) : Cursor := (c.takeWhile test).2

/-- The cursor after spaces. -/
def dropSpaces (c : Cursor) : Cursor := c.dropWhile (· == ' ')

/-- The cursor at the end of the line. -/
def dropLine (c : Cursor) : Cursor := c.dropWhile fun char => !endsLine (some char)

/-- The end of a line as it counts in a text, and the cursor after it. -/
def lineBreak? (c : Cursor) : Option (Char × Cursor) :=
  match c.rest with
  | '\r' :: '\n' :: _ => some ('\n', c.skip 2)
  | char :: _ =>
    if endsLine (some char) then some ('\n', c.next)
    else if isBreak char then some (char, c.next)
    else none
  | [] => none

/-- Three of a character stand here, and then a blank or an end. -/
def hasMark (c : Cursor) (char : Char) : Bool :=
  c.rest.take 3 == [char, char, char] && endsWord (c.peekAt 3)

/-- A mark between documents stands here. -/
def hasDocumentMark (c : Cursor) : Bool := c.hasMark '-' || c.hasMark '.'

end Cursor

end Continuity.Yaml
