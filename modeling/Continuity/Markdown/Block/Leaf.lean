import Continuity.Markdown.Block
import Continuity.Markdown.Block.Line
import Continuity.Markdown.Html

/-! # Recognising blocks by their first line

What a line begins: a fence, a heading, a thematic break, a list item or HTML. The recognisers look
at one line, so they also tell which lines may interrupt a paragraph, a quotation or a list.
-/

namespace Continuity.Markdown

namespace Scope

/-- An opening fence: its mark and length. -/
structure Fence where
  mark : Char
  length : Nat
  deriving Repr, DecidableEq

/-- The fence that a line opens. A fence of backticks has no backtick after it. -/
def fence? (s : Scope) (i : Nat) : Option Fence :=
  if s.isCodeIndented i then none
  else match s.firstChar? i with
    | none => none
    | some mark =>
      if mark == '~' || mark.toNat == 0x60 then
        let text := s.textOf i
        let run := text.takeWhile (· == mark)
        let info := text.drop run.length
        if run.length < 3 || (mark.toNat == 0x60 && info.contains mark) then none
        else some ⟨mark, run.length⟩
      else none

/-- A line closes a fence. -/
def closesFence (s : Scope) (fence : Fence) (i : Nat) : Bool :=
  let text := s.textOf i
  let run := text.takeWhile (· == fence.mark)
  !s.isCodeIndented i && fence.length ≤ run.length && (text.drop run.length).all isGap

/-- The heading that a line is: its depth and content. -/
def heading? (s : Scope) (i : Nat) : Option (Nat × List Char) :=
  if s.isCodeIndented i then none
  else
    let text := s.textOf i
    let depth := (text.takeWhile (· == '#')).length
    let rest := text.drop depth
    if depth == 0 || depth > 6 || !(rest.head?.all isGap) then none
    else
      let body := (rest.reverse.dropWhile isGap).reverse
      let front := (body.reverse.dropWhile (· == '#')).reverse
      let kept := if front.getLast?.any isGap then front else body
      some (depth, Text.trim kept)

/-- A line is a thematic break: at least three equal marks, and gaps. -/
def isThematicBreak (s : Scope) (i : Nat) : Bool :=
  !s.isCodeIndented i &&
    match s.firstChar? i with
    | none => false
    | some mark =>
      let text := s.textOf i
      (mark == '*' || mark == '-' || mark == '_') && text.all (fun c => c == mark || isGap c) &&
        3 ≤ text.count mark

/-- A line begins a quotation. -/
def isQuote (s : Scope) (i : Nat) : Bool := !s.isCodeIndented i && s.firstChar? i == some '>'

/-- The mark of a list item. -/
structure ListMark where
  /-- The number of an ordered item. -/
  number : Option Nat
  /-- The bullet, or the delimiter after the number. -/
  delimiter : Char
  /-- The position after the mark. -/
  next : Nat
  deriving Repr, DecidableEq

/-- A mark is followed by a gap or nothing. -/
def endsMark : List Char → Bool
  | [] => true
  | c :: _ => isGap c

/-- The mark at the start of a line's text: a bullet, or up to nine digits and a delimiter. -/
def listMark? (s : Scope) (i : Nat) : Option ListMark :=
  let text := s.textOf i
  let start := (s.line i).textStart
  match text with
  | [] => none
  | c :: rest =>
    if c == '*' || c == '-' || c == '+' then
      if endsMark rest then some ⟨none, c, start + 1⟩ else none
    else
      let digits := text.takeWhile Char.isDigit
      match text.drop digits.length with
      | d :: after =>
        if !digits.isEmpty && digits.length ≤ 9 && (d == ')' || d == '.') && endsMark after then
          some ⟨digitsIn 10 digits, d, start + digits.length + 1⟩
        else none
      | [] => none

/-- The mark of the list that a line begins. A line far to the right of the list around it, yet
outside the item before it, continues a paragraph. A paragraph is only interrupted by an item that
is not empty and, if it is numbered, has the number one. -/
def listStart? (s : Scope) (inParagraph : Bool) (i : Nat) : Option ListMark :=
  let l := s.line i
  if s.isCodeIndented i then none
  else if s.listIndent ≥ 0 && l.indent - s.listIndent ≥ 4 && l.indent < s.indent then none
  else (s.listMark? i).bind fun mark =>
    if inParagraph && l.indent ≥ s.indent then
      let empty := (slice s.src mark.next l.stop).all isGap
      if empty || mark.number.any (· != 1) then none else some mark
    else some mark

/-- The kind of HTML block that a line begins. -/
def htmlKind? (s : Scope) (i : Nat) : Option Html.BlockKind :=
  if s.isCodeIndented i then none else Html.blockKind? (s.textOf i)

/-- What a line may interrupt. -/
inductive Interrupted where
  | paragraph
  | definition
  | quote
  | list
  deriving Repr, DecidableEq

/-- A line ends what stands before it. -/
def interrupts (s : Scope) (what : Interrupted) (i : Nat) : Bool :=
  (s.fence? i).isSome || s.isQuote i || s.isThematicBreak i ||
    (what != .list &&
      ((s.listStart? (what == .paragraph) i).isSome ||
        (s.htmlKind? i).any (·.interruptsParagraph) || (s.heading? i).isSome))

/-- A line continues a paragraph whatever stands on it: it is indented too deep for anything else,
or known to be a continuation. -/
def continuesParagraph (s : Scope) (i : Nat) : Bool :=
  s.isCodeIndented i || (s.line i).indent < 0

/-- The line after a paragraph, of which the lines before `i` are known. -/
def paragraphEnd (s : Scope) : (fuel : Nat) → Nat → Nat
  | 0, i => i
  | fuel + 1, i =>
    if i < s.lineCount && !s.isEmpty i &&
        (s.continuesParagraph i || !s.interrupts .paragraph i) then
      s.paragraphEnd fuel (i + 1)
    else i

/-- The depth of the heading that a line underlines. -/
def underline? (s : Scope) (i : Nat) : Option Nat :=
  if (s.line i).indent < s.indent then none
  else match s.firstChar? i with
    | none => none
    | some mark =>
      if mark == '-' || mark == '=' then
        let rest := (s.textOf i).dropWhile (· == mark)
        if rest.all isGap then some (if mark == '=' then 1 else 2) else none
      else none

/-- The underline of the heading whose first lines stand before `i`, and its depth. -/
def findUnderline? (s : Scope) (stop : Nat) : (fuel : Nat) → Nat → Option (Nat × Nat)
  | 0, _ => none
  | fuel + 1, i =>
    if i < stop && !s.isEmpty i then
      if s.isCodeIndented i then s.findUnderline? stop fuel (i + 1)
      else match s.underline? i with
        | some depth => some (i, depth)
        | none =>
          if (s.line i).indent < 0 || !s.interrupts .paragraph i then
            s.findUnderline? stop fuel (i + 1)
          else none
    else none

/-- The end of indented code whose lines before `last` are known; empty lines belong to it if code
follows them. -/
def codeEnd (s : Scope) (stop last : Nat) : (fuel : Nat) → Nat → Nat
  | 0, _ => last
  | fuel + 1, i =>
    if i < stop then
      if s.isEmpty i then s.codeEnd stop last fuel (i + 1)
      else if s.isCodeIndented i then s.codeEnd stop (i + 1) fuel (i + 1)
      else last
    else last

/-- The line at which fenced code stops, and whether that line closes it. -/
def fenceEnd (s : Scope) (fence : Fence) (stop : Nat) : (fuel : Nat) → Nat → Nat × Bool
  | 0, i => (i, false)
  | fuel + 1, i =>
    if stop ≤ i then (i, false)
    else
      let l := s.line i
      if !l.isEmpty && l.indent < s.indent then (i, false)
      else if s.src.size ≤ l.textStart then (i, false)
      else if s.firstChar? i == some fence.mark && s.closesFence fence i then (i, true)
      else s.fenceEnd fence stop fuel (i + 1)

/-- The line after an HTML block whose lines before `i` do not end it. -/
def htmlEnd (s : Scope) (kind : Html.BlockKind) (stop : Nat) : (fuel : Nat) → Nat → Nat
  | 0, i => i
  | fuel + 1, i =>
    if i < stop then
      if (s.line i).indent < s.indent then i
      else
        let text := s.textOf i
        if kind.stop.reached text then if text.isEmpty then i else i + 1
        else s.htmlEnd kind stop fuel (i + 1)
    else i

/-- A block that stands on lines of its own, and the line after it. -/
structure Found where
  block : Block (List Char)
  next : Nat

/-- Indented code at a line. -/
def indentedCode? (s : Scope) (stop i : Nat) : Option Found :=
  if s.isCodeIndented i then
    let last := s.codeEnd stop (i + 1) (stop - i) (i + 1)
    some ⟨.code ⟨i, last⟩ (s.text i (4 + s.indent) false (last - i) ++ ['\n']), last⟩
  else none

/-- Fenced code at a line. -/
def fencedCode? (s : Scope) (stop i : Nat) : Option Found :=
  (s.fence? i).map fun fence =>
    let (last, closed) := s.fenceEnd fence stop (stop - i) (i + 1)
    let next := if closed then last + 1 else last
    ⟨.code ⟨i, next⟩ (s.text (i + 1) (s.line i).indent true (last - (i + 1))), next⟩

/-- A thematic break at a line. -/
def thematicBreak? (s : Scope) (i : Nat) : Option Found :=
  if s.isThematicBreak i then some ⟨.thematicBreak ⟨i, i + 1⟩, i + 1⟩ else none

/-- An HTML block at a line. -/
def htmlBlock? (s : Scope) (stop i : Nat) : Option Found :=
  (s.htmlKind? i).map fun kind =>
    let next := if kind.stop.reached (s.textOf i) then i + 1
      else s.htmlEnd kind stop (stop - i) (i + 1)
    ⟨.html ⟨i, next⟩ (s.text i s.indent true (next - i)), next⟩

/-- A heading with leading marks at a line. -/
def markedHeading? (s : Scope) (i : Nat) : Option Found :=
  (s.heading? i).map fun (depth, content) => ⟨.heading ⟨i, i + 1⟩ depth content, i + 1⟩

/-- An underlined heading at a line. -/
def underlinedHeading? (s : Scope) (stop i : Nat) : Option Found :=
  if s.isCodeIndented i then none
  else (s.findUnderline? stop (stop - i) (i + 1)).map fun (last, depth) =>
    let content := Text.trim (s.text i s.indent false (last - i))
    ⟨.heading ⟨i, last + 1⟩ depth content, last + 1⟩

/-- The paragraph at a line. -/
def paragraph (s : Scope) (i : Nat) : Found :=
  let last := s.paragraphEnd (s.lineCount - i) (i + 1)
  ⟨.paragraph ⟨i, last⟩ (Text.trim (s.text i s.indent false (last - i))), last⟩

end Scope

end Continuity.Markdown
