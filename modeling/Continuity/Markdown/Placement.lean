import Continuity.Markdown.Block.Parser
import Continuity.Markdown.LinkPart
import Continuity.Markdown.Node

/-! # Documents with the places of their content

Blocks know their lines; inline content is found again in the source of its block. A cursor moves
over the block's source in the order of the content, each piece being sought from where the piece
before it ended. A piece that is not found takes no room, and stands where the cursor is.
-/

namespace Continuity.Markdown

open Text (LineIndex Span startsWith)

/-- A text to be searched, with its line index. -/
structure Source where
  src : Array Char
  index : LineIndex

namespace Source

/-- The source of a text that may differ from the indexed one by blanked characters. -/
def ofText (text : List Char) (index : LineIndex) : Source := ⟨text.toArray, index⟩

/-- The characters at a position begin with `needle`. -/
def hasAt (s : Source) (needle : List Char) (pos : Nat) : Bool :=
  match needle with
  | [] => true
  | c :: rest => s.src[pos]? == some c && s.hasAt rest (pos + 1)

/-- The first occurrence of a text among `fuel` positions from `pos` on. -/
def seek? (s : Source) (needle : List Char) : (fuel : Nat) → Nat → Option Nat
  | 0, _ => none
  | fuel + 1, pos => if s.hasAt needle pos then some pos else s.seek? needle fuel (pos + 1)

/-- The first occurrence of a non-empty text that lies between `pos` and `stop`. -/
def find? (s : Source) (needle : List Char) (pos stop : Nat) : Option Nat :=
  if needle.isEmpty then none
  else s.seek? needle (stop + 1 - needle.length - pos) pos

/-- The stretch of a block's lines, from the first character that is no gap. -/
def blockSpan (s : Source) (lines : LineRange) : Span :=
  let first := lines.first + 1
  let last := max lines.stop first
  let start := s.index.lineStart first
  let start := skipWhile isGap s.src start (s.index.lineEnd first)
  s.index.span start (s.index.lineEnd last)

/-- Where the tail of a link ends, after the closing bracket of its label: the closing parenthesis
or bracket of what follows directly, counted without regard to quotes. -/
def parenthesesEnd? (s : Source) (stop : Nat) : (fuel : Nat) → (depth pos : Nat) → Option Nat
  | 0, _, _ => none
  | fuel + 1, depth, pos =>
    if stop ≤ pos then none
    else match s.src[pos]? with
      | some '\\' => s.parenthesesEnd? stop fuel depth (pos + 2)
      | some '(' => s.parenthesesEnd? stop fuel (depth + 1) (pos + 1)
      | some ')' =>
        if depth ≤ 1 then some (pos + 1) else s.parenthesesEnd? stop fuel (depth - 1) (pos + 1)
      | _ => s.parenthesesEnd? stop fuel depth (pos + 1)

/-- The cursor after a link or picture whose label has been passed. -/
def skipTail (s : Source) (stop pos : Nat) : Nat :=
  match s.find? [']'] pos stop with
  | none => pos
  | some close =>
    let pos := close + 1
    match s.src[pos]? with
    | some '(' => (s.parenthesesEnd? stop (stop - pos) 0 pos).getD pos
    | some '[' =>
      match s.find? [']'] (pos + 1) stop with
      | some close => close + 1
      | none => pos
    | _ => pos

/-- The cursor after the next occurrence of a text, or where it is. -/
def skipNext (s : Source) (needle : List Char) (stop pos : Nat) : Nat :=
  match s.find? needle pos stop with
  | some found => found + needle.length
  | none => pos

/-- A piece without parts, sought as `needle`. -/
def placeLeaf (s : Source) (stop pos : Nat) (kind : NodeKind) (value : Option String)
    (needle : List Char) : Node × Nat :=
  let (start, next) := match s.find? needle pos stop with
    | some found => (found, found + needle.length)
    | none => (pos, pos)
  (.mk kind (some (s.index.span start next)) value none none none [], next)

/-- Code: its mark, its content, and its mark again. -/
def placeCode (s : Source) (stop pos : Nat) (mark content : List Char) : Node × Nat :=
  let value := some (String.ofList content)
  match s.find? mark pos stop with
  | none => s.placeLeaf stop pos .inlineCode value content
  | some start =>
    let next := s.skipNext content stop (start + mark.length)
    let next := s.skipNext mark stop next
    (.mk .inlineCode (some (s.index.span start next)) value none none none [], next)

/-- A title, if there is one. -/
def titleOf (title : List Char) : Option String :=
  if title.isEmpty then none else some (String.ofList title)

/-- The start of a construct and the cursor after its opening mark. -/
def openAt (s : Source) (stop pos : Nat) (mark : List Char) : Nat × Nat :=
  match s.find? mark pos stop with
  | some found => (found, found + mark.length)
  | none => (pos, pos)

mutual

/-- Places one piece of content; the answer is the cursor after it. -/
def placeInline (s : Source) (stop pos : Nat) : Inline → Node × Nat
  | .text content => s.placeLeaf stop pos .text (some (String.ofList content)) content
  | .html content => s.placeLeaf stop pos .html (some (String.ofList content)) content
  | .lineBreak => s.placeLeaf stop pos .lineBreak none ['\n']
  | .code mark content => s.placeCode stop pos mark content
  | .emphasis strong mark children =>
    let marks := if strong then [mark, mark] else [mark]
    let (start, next) := s.openAt stop pos marks
    let (nodes, next) := placeInlines s stop next children
    let next := s.skipNext marks stop next
    (.mk (if strong then .strong else .emphasis) (some (s.index.span start next)) none none none
      none nodes, next)
  | .link automatic url title children =>
    let (start, next) := s.openAt stop pos [if automatic then '<' else '[']
    let (nodes, next) := placeInlines s stop next children
    let next := if automatic then s.skipNext ['>'] stop next else s.skipTail stop next
    (.mk .link (some (s.index.span start next)) none (some (String.ofList url)) (titleOf title)
      none nodes, next)
  | .image url title description =>
    let (start, next) := s.openAt stop pos ['!', '[']
    let next := s.skipTail stop next
    (.mk .image (some (s.index.span start next)) (some (String.ofList description))
      (some (String.ofList url)) (titleOf title) none [], next)

/-- Places content in its order. -/
def placeInlines (s : Source) (stop pos : Nat) : List Inline → List Node × Nat
  | [] => ([], pos)
  | piece :: rest =>
    let (node, next) := placeInline s stop pos piece
    let (nodes, last) := placeInlines s stop next rest
    (node :: nodes, last)

end

/-- The nodes of a block's inline content. -/
def placeContent (s : Source) (span : Span) (content : List Inline) : List Node :=
  (s.placeInlines (max span.stop.offset span.start.offset) span.start.offset content).1

mutual

/-- Places a block. -/
def placeBlock (s : Source) : Block (List Inline) → Node
  | .paragraph lines content =>
    let span := s.blockSpan lines
    .mk .paragraph (some span) none none none none (s.placeContent span content)
  | .heading lines depth content =>
    let span := s.blockSpan lines
    .mk .heading (some span) none none none (some depth) (s.placeContent span content)
  | .quote lines children =>
    .mk .quote (some (s.blockSpan lines)) none none none none (placeBlocks s children)
  | .list lines items =>
    .mk .list (some (s.blockSpan lines)) none none none none (placeBlocks s items)
  | .item lines children =>
    .mk .item (some (s.blockSpan lines)) none none none none (placeBlocks s children)
  | .code lines content =>
    .mk .code (some (s.blockSpan lines)) (some (String.ofList content)) none none none []
  | .html lines content =>
    .mk .html (some (s.blockSpan lines)) (some (String.ofList content)) none none none []
  | .thematicBreak lines =>
    .mk .thematicBreak (some (s.blockSpan lines)) none none none none []

/-- Places blocks in their order. -/
def placeBlocks (s : Source) : List (Block (List Inline)) → List Node
  | [] => []
  | b :: rest => placeBlock s b :: placeBlocks s rest

end

/-- The document whose blocks these are. -/
def placeDocument (s : Source) (blocks : List (Block (List Inline))) : Node :=
  .mk .root (some (s.index.span 0 s.src.size)) none none none none (s.placeBlocks blocks)

end Source

/-- The document that a text is, placed by an index of the text that it stands for. -/
def parseWith (text : List Char) (index : LineIndex) : Node :=
  (Source.ofText text index).placeDocument (parseBlocks text)

/-- The document that a text is. -/
def parse (text : List Char) : Node := parseWith text (.ofText text)

end Continuity.Markdown
