import Continuity.Markdown.Escape
import Continuity.Text.Blank

/-! # Destinations, titles and labels

The parts of links that inline links and definitions share. Texts are arrays of characters, and a
part is read from a position up to a stop.
-/

namespace Continuity.Markdown

/-- The characters between two positions. -/
def slice (src : Array Char) (start stop : Nat) : List Char := (src.extract start stop).toList

/-- A space or a tab. -/
def isGap (c : Char) : Bool := c == ' ' || c == '\t'

/-- A space, a tab or a line feed. -/
def isGapOrNewline (c : Char) : Bool := isGap c || c == '\n'

/-- The first position from `pos` on, at most `fuel` further, whose character is not accepted. -/
def skipWhileFor (accepts : Char → Bool) (src : Array Char) : (fuel : Nat) → Nat → Nat
  | 0, pos => pos
  | fuel + 1, pos =>
    match src[pos]? with
    | some c => if accepts c then skipWhileFor accepts src fuel (pos + 1) else pos
    | none => pos

/-- The first position from `pos` on, no further than `stop`, whose character is not accepted. -/
def skipWhile (accepts : Char → Bool) (src : Array Char) (pos stop : Nat) : Nat :=
  skipWhileFor accepts src (stop - pos) pos

/-- A part that was read, and the position after it. -/
structure Part where
  text : List Char
  next : Nat
  deriving Repr

/-- The position of the closing bracket of a destination in angle brackets. -/
def angledEnd? (src : Array Char) (stop : Nat) : (fuel : Nat) → Nat → Option Nat
  | 0, _ => none
  | fuel + 1, pos =>
    if stop ≤ pos then none
    else match src[pos]? with
      | none => none
      | some c =>
        if c == '\n' || c == '<' then none
        else if c == '>' then some pos
        else if c == '\\' && pos + 1 < stop then angledEnd? src stop fuel (pos + 2)
        else angledEnd? src stop fuel (pos + 1)

/-- The end of a destination without brackets, whose parentheses balance; `depth` of them are open.
More than thirty-two open ones are refused. -/
def bareEnd? (src : Array Char) (stop : Nat) : (fuel depth : Nat) → Nat → Option Nat
  | 0, depth, pos => if depth = 0 then some pos else none
  | fuel + 1, depth, pos =>
    let finish := if depth = 0 then some pos else none
    if stop ≤ pos then finish
    else match src[pos]? with
      | none => finish
      | some c =>
        if c.toNat ≤ 0x20 || c.toNat == 0x7F then finish
        else if c == '\\' && pos + 1 < stop then
          if src[pos + 1]? == some ' ' then finish else bareEnd? src stop fuel depth (pos + 2)
        else if c == '(' then
          if depth ≥ 32 then none else bareEnd? src stop fuel (depth + 1) (pos + 1)
        else if c == ')' then
          match depth with
          | 0 => some pos
          | depth + 1 => bareEnd? src stop fuel depth (pos + 1)
        else bareEnd? src stop fuel depth (pos + 1)

/-- The destination at a position. -/
def destination? (src : Array Char) (pos stop : Nat) : Option Part :=
  if src[pos]? == some '<' then
    (angledEnd? src stop (stop - pos) (pos + 1)).map fun close =>
      ⟨unescape (slice src (pos + 1) close), close + 1⟩
  else
    match bareEnd? src stop (stop - pos) 0 pos with
    | some last => if last = pos then none else some ⟨unescape (slice src pos last), last⟩
    | none => none

/-- How far a title was read. -/
inductive TitleRead where
  | closed (part : Part)
  /-- No closing mark yet: the mark and what was read. -/
  | unfinished (mark : Char) (text : List Char)
  | refused

/-- The position of a title's closing mark; `none` for a parenthesis inside parentheses, and the
stop if there is no mark. -/
def titleEnd? (src : Array Char) (mark : Char) (stop : Nat) : (fuel : Nat) → Nat → Option Nat
  | 0, _ => some stop
  | fuel + 1, pos =>
    if stop ≤ pos then some stop
    else match src[pos]? with
      | none => some stop
      | some c =>
        if c == mark then some pos
        else if c == '(' && mark == ')' then none
        else if c == '\\' && pos + 1 < stop then titleEnd? src mark stop fuel (pos + 2)
        else titleEnd? src mark stop fuel (pos + 1)

/-- Reads on in a title from a position. -/
def continueTitle (src : Array Char) (mark : Char) (before : List Char) (pos stop : Nat) :
    TitleRead :=
  match titleEnd? src mark stop (stop - pos) pos with
  | none => .refused
  | some last =>
    let text := before ++ unescape (slice src pos last)
    if last < stop then .closed ⟨text, last + 1⟩ else .unfinished mark text

/-- Reads the title at a position. -/
def readTitle (src : Array Char) (pos stop : Nat) : TitleRead :=
  if stop ≤ pos then .refused
  else match src[pos]? with
    | some '"' => continueTitle src '"' [] (pos + 1) stop
    | some '\'' => continueTitle src '\'' [] (pos + 1) stop
    | some '(' => continueTitle src ')' [] (pos + 1) stop
    | _ => .refused

/-- Runs of blanks as one space. -/
def collapseBlanks : List Char → List Char
  | [] => []
  | c :: rest =>
    if Text.isBlank c then
      match rest with
      | d :: _ => if Text.isBlank d then collapseBlanks rest else ' ' :: collapseBlanks rest
      | [] => [' ']
    else c :: collapseBlanks rest

/-- The form in which labels are compared: blanks collapsed, case removed. -/
def labelKey (label : List Char) : List Char :=
  Text.upperChars (Text.lowerChars (collapseBlanks (Text.trim label)))

/-- What a definition assigns to its label. -/
structure Definition where
  destination : List Char
  title : List Char
  deriving Repr, DecidableEq

/-- The definitions of a document, the earliest first. -/
abbrev Definitions := List (List Char × Definition)

/-- The first definition of a label. -/
def Definitions.find? (definitions : Definitions) (key : List Char) : Option Definition :=
  (List.find? (·.1 == key) definitions).map (·.2)

end Continuity.Markdown
