import Continuity.Markdown.Block.Definition
import Continuity.Markdown.Inline.Parser

/-! # Reading blocks

A scope is read block by block. Quotations and list items are scopes of their own: their lines begin
further right, and what they hold is read in the same way, down to a bounded depth. Definitions are
collected on the way and leave no block.
-/

namespace Continuity.Markdown

/-- How deep blocks may nest. -/
def maxBlockNesting : Nat := 20

/-- Blocks that were read, the line after them, and all definitions known by then. -/
structure BlocksRead where
  blocks : List (Block (List Char))
  next : Nat
  definitions : Definitions

/-- How the lines from `start` up to `stop` of a scope are read. -/
abbrev ReadBlocks := Scope → (start stop : Nat) → Definitions → BlocksRead

namespace Scope

/-- Counts gaps from a position: the position after them and the column there. -/
def skipGaps (src : Array Char) (stop base : Nat) : (fuel : Nat) → Nat → Int → Nat × Int
  | 0, pos, column => (pos, column)
  | fuel + 1, pos, column =>
    if stop ≤ pos then (pos, column)
    else match src[pos]? with
      | some '\t' => skipGaps src stop base fuel (pos + 1) (column + 4 - (column + base) % 4)
      | some ' ' => skipGaps src stop base fuel (pos + 1) (column + 1)
      | _ => (pos, column)

/-- A quoted line as its quotation sees it: one gap after the mark belongs to the mark. A tab there
that is wider than one column leaves its other columns to the line. -/
def quotedLine (s : Scope) (l : Line) : Line :=
  let pos := l.textStart + 1
  let column := l.indent + 1
  let next := s.src[pos]?
  let ownsTab := next == some '\t' && ((l.base : Int) + column) % 4 == 3
  let sharesTab := next == some '\t' && !ownsTab
  let spaced := next == some ' ' || next == some '\t'
  let skipped : Nat := if next == some ' ' || ownsTab then 1 else 0
  let start := pos + skipped
  let column := column + skipped
  let (text, width) := skipGaps s.src l.stop (l.base + if sharesTab then 1 else 0) (l.stop - start)
    start column
  { start := start
    stop := l.stop
    shift := text - start
    indent := width - column
    base := (l.indent + 1 + if spaced then 1 else 0).toNat }

/-- The lines of a quotation, given those before `i`; the scope's end where something else
interrupts it. -/
structure Quotation where
  scope : Scope
  next : Nat

/-- The quotation whose lines before `i` are known; `lastEmpty` tells that the last of them is
empty. Lines without a mark continue a paragraph in it. -/
def quotation (s : Scope) (stop : Nat) : (fuel : Nat) → (lastEmpty : Bool) → Nat → Quotation
  | 0, _, i => ⟨s, i⟩
  | fuel + 1, lastEmpty, i =>
    let l := s.line i
    if stop ≤ i || l.isEmpty then ⟨s, i⟩
    else if s.firstChar? i == some '>' && l.indent ≥ s.indent then
      let inner := s.quotedLine l
      quotation { s with lines := s.lines.setIfInBounds i inner } stop fuel inner.isEmpty (i + 1)
    else if lastEmpty then ⟨s, i⟩
    else if s.interrupts .quote i then
      let lines := if s.indent = 0 then s.lines
        else s.lines.setIfInBounds i { l with indent := l.indent - s.indent }
      ⟨{ s with lines := lines, lineCount := i }, i⟩
    else
      quotation { s with lines := s.lines.setIfInBounds i { l with indent := -1 } } stop fuel
        lastEmpty (i + 1)

/-- Reads the quotation at a line. -/
def readQuote (read : ReadBlocks) (s : Scope) (stop i : Nat) (definitions : Definitions) :
    BlocksRead :=
  let q := s.quotation stop (stop - i + 1) false i
  let inner := read { q.scope with indent := 0 } i q.next definitions
  { inner with blocks := [.quote ⟨i, inner.next⟩ inner.blocks] }

/-- The scope of the list item whose mark is on a line, and whether the line holds nothing else.
Text more than four columns away from the mark is code inside the item. -/
def itemScope (s : Scope) (i : Nat) (mark : ListMark) : Scope × Bool :=
  let l := s.line i
  let initial := l.indent + mark.next - l.textStart
  let (text, column) := skipGaps s.src l.stop l.base (l.stop - mark.next) mark.next initial
  let empty := l.stop ≤ text
  let distance := if empty then 1 else column - initial
  let distance := if distance > 4 then 1 else distance
  ({ s with
      lines := s.lines.setIfInBounds i { l with shift := text - l.start, indent := column }
      listIndent := s.indent
      indent := initial + distance },
    empty)

/-- The mark of the item that continues a list at a line. -/
def nextItem? (s : Scope) (mark : ListMark) (stop i : Nat) : Option ListMark :=
  if stop ≤ i || (s.line i).indent < s.indent || s.isCodeIndented i || s.interrupts .list i then
    none
  else (s.listMark? i).bind fun next =>
    if next.number.isSome == mark.number.isSome && next.delimiter == mark.delimiter then some next
    else none

/-- Reads the items of a list from the one whose mark is on line `i`. -/
def readItems (read : ReadBlocks) (s : Scope) (stop : Nat) :
    (fuel : Nat) → (mark : ListMark) → Nat → Definitions → BlocksRead
  | 0, _, i, definitions => ⟨[], i, definitions⟩
  | fuel + 1, mark, i, definitions =>
    let (inner, empty) := s.itemScope i mark
    let content :=
      if empty && s.isEmpty (i + 1) then ⟨[], min (i + 2) stop, definitions⟩
      else read inner i stop definitions
    let item := Block.item ⟨i, content.next⟩ content.blocks
    match s.nextItem? mark stop content.next with
    | none => { content with blocks := [item] }
    | some next =>
      let rest := readItems read s stop fuel next content.next content.definitions
      { rest with blocks := item :: rest.blocks }

/-- Reads the list at a line. -/
def readList (read : ReadBlocks) (s : Scope) (stop i : Nat) (mark : ListMark)
    (definitions : Definitions) : BlocksRead :=
  let items := s.readItems read stop (stop - i) mark i definitions
  { items with blocks := [.list ⟨i, items.next⟩ items.blocks] }

/-- Reads one block, or one definition, at a line. -/
def readBlock (readQuoted readItem : ReadBlocks) (s : Scope) (stop i : Nat)
    (definitions : Definitions) : BlocksRead :=
  let leaf := fun (f : Found) => (⟨[f.block], f.next, definitions⟩ : BlocksRead)
  match s.indentedCode? stop i <|> s.fencedCode? stop i with
  | some f => leaf f
  | none =>
    if s.isQuote i then s.readQuote readQuoted stop i definitions
    else match s.thematicBreak? i with
      | some f => leaf f
      | none =>
        match s.listStart? false i with
        | some mark => s.readList readItem stop i mark definitions
        | none =>
          match s.definition? i with
          | some d => ⟨[], d.next, definitions ++ [(d.key, d.definition)]⟩
          | none =>
            match s.htmlBlock? stop i <|> s.markedHeading? i <|> s.underlinedHeading? stop i with
            | some f => leaf f
            | none => leaf (s.paragraph i)

/-- Reads the blocks from a line on; `readAt` reads one. Lines that are indented less than the scope
demands end it. -/
def readBlocks (readAt : Scope → (stop i : Nat) → Definitions → BlocksRead) (s : Scope)
    (stop : Nat) : (fuel : Nat) → Nat → Definitions → BlocksRead
  | 0, i, definitions => ⟨[], i, definitions⟩
  | fuel + 1, i, definitions =>
    if stop ≤ i then ⟨[], i, definitions⟩
    else
      let i := s.skipEmpty (s.lineCount - i) i
      if stop ≤ i || (s.line i).indent < s.indent then ⟨[], i, definitions⟩
      else
        let first := readAt s stop i definitions
        let next := if first.next < stop && s.isEmpty first.next then first.next + 1 else first.next
        let rest := readBlocks readAt s stop fuel next first.definitions
        { rest with blocks := first.blocks ++ rest.blocks }

/-- Reads nothing up to the stop: what nests too deep is dropped. -/
def skipBlocks : ReadBlocks := fun s start stop definitions =>
  s.readBlocks (fun _ stop _ definitions => ⟨[], stop, definitions⟩) stop (stop - start) start
    definitions

/-- Reads the blocks of a scope. An item nests two levels deep, in its list and in itself. -/
def read : (budget : Nat) → ReadBlocks
  | 0 => skipBlocks
  | 1 => fun s start stop definitions =>
    s.readBlocks (readBlock skipBlocks skipBlocks) stop (stop - start) start definitions
  | budget + 2 => fun s start stop definitions =>
    s.readBlocks (readBlock (read (budget + 1)) (read budget)) stop (stop - start) start definitions

end Scope

/-- A document: its blocks with the source of their inline content, and its definitions. -/
structure Document where
  blocks : List (Block (List Char))
  definitions : Definitions

/-- The scope of a whole text. -/
def Scope.ofText (text : List Char) : Scope :=
  let lines := Line.ofText text
  ⟨text.toArray, lines, lines.size, 0, -1⟩

/-- The blocks and definitions of a text, which begin at its first line that is not empty. -/
def Document.parse (text : List Char) : Document :=
  let scope := Scope.ofText text
  let first := scope.skipEmpty scope.lineCount 0
  let content := Scope.read maxBlockNesting scope first scope.lineCount []
  ⟨content.blocks, content.definitions⟩

/-- Line feeds for all line ends, and the replacement character for NUL. -/
def normalizeSource : List Char → List Char
  | [] => []
  | '\r' :: '\n' :: rest => '\n' :: normalizeSource rest
  | c :: rest =>
    (if c == '\r' then '\n' else if c == '\x00' then '\uFFFD' else c) :: normalizeSource rest

/-- The blocks of a text with their inline content. -/
def parseBlocks (text : List Char) : List (Block (List Inline)) :=
  let document := Document.parse (normalizeSource text)
  Block.mapAll (Inline.parse document.definitions) document.blocks

end Continuity.Markdown
