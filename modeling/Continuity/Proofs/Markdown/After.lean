import Continuity.Markdown.Placement
import Continuity.Proofs.Markdown.Placement
import Continuity.Proofs.Text.After

/-! # Content found after other lines

Finding content in its source looks only at where the lines of its block begin and end and at what
stands from there on. So what is found after some other lines is what is found without them, as many
lines further down, and as many characters further on, as those lines take.
-/

namespace Continuity.Markdown

open Text (Span LineIndex unlines)

namespace Node

mutual

/-- The node some lines and characters further on. -/
def after (lines chars : Nat) : Node → Node
  | .mk kind span value url title depth children =>
    .mk kind (span.map (·.after lines chars)) value url title depth (afterAll lines chars children)

/-- The nodes some lines and characters further on. -/
def afterAll (lines chars : Nat) : List Node → List Node
  | [] => []
  | n :: rest => after lines chars n :: afterAll lines chars rest

end

theorem span_after (n : Node) (lines chars : Nat) :
    (n.after lines chars).span = n.span.map (·.after lines chars) := by
  cases n
  rfl

variable {lines chars : Nat}

mutual

theorem walk_after : ∀ n : Node, (n.after lines chars).walk = n.walk.map (·.after lines chars)
  | .mk _ _ _ _ _ _ children => by
      rw [after, walk, walk, List.map_cons, walkAll_afterAll children]
      rfl

theorem walkAll_afterAll : ∀ nodes : List Node,
    walkAll (afterAll lines chars nodes) = (walkAll nodes).map (·.after lines chars)
  | [] => rfl
  | n :: rest => by
      rw [afterAll, walkAll, walkAll, List.map_append, walk_after n, walkAll_afterAll rest]

end

end Node

/-- The lines some lines further down. -/
def LineRange.after (lines : Nat) (r : LineRange) : LineRange := ⟨lines + r.first, lines + r.stop⟩

namespace Block

variable {α β : Type}

mutual

/-- The block some lines further down. -/
def after (lines : Nat) : Block α → Block α
  | .paragraph r content => .paragraph (r.after lines) content
  | .heading r depth content => .heading (r.after lines) depth content
  | .quote r children => .quote (r.after lines) (afterAll lines children)
  | .list r items => .list (r.after lines) (afterAll lines items)
  | .item r children => .item (r.after lines) (afterAll lines children)
  | .code r content => .code (r.after lines) content
  | .html r content => .html (r.after lines) content
  | .thematicBreak r => .thematicBreak (r.after lines)

/-- The blocks some lines further down. -/
def afterAll (lines : Nat) : List (Block α) → List (Block α)
  | [] => []
  | b :: rest => after lines b :: afterAll lines rest

end

end Block

namespace Source

/-- One source has in it, some lines and characters further on, what another one has. -/
structure After (s : Source) (lines chars : Nat) (t : Source) : Prop where
  src : ∀ pos, t.src[chars + pos]? = s.src[pos]?
  point : ∀ offset : Nat, t.index.point (chars + offset : Nat) =
    (s.index.point offset).after lines chars
  lineStart : ∀ k : Nat, t.index.lineStart (lines + (k + 1) : Nat) =
    chars + s.index.lineStart (k + 1 : Nat)
  lineEnd : ∀ k : Nat, t.index.lineEnd (lines + (k + 1)) = chars + s.index.lineEnd (k + 1)

theorem after_unlines {front : List (List Char)} (h : ∀ line ∈ front, '\n' ∉ line)
    (text : List Char) : (ofText text (.ofText text)).After front.length (unlines front).length
      (ofText (unlines front ++ text) (.ofText (unlines front ++ text))) where
  src pos := by
    rw [ofText, ofText, List.getElem?_toArray, List.getElem?_toArray,
      List.getElem?_append_right (Nat.le_add_right _ _), Nat.add_sub_cancel_left]
  point := LineIndex.point_after h text
  lineStart := LineIndex.lineStart_after h text
  lineEnd := LineIndex.lineEnd_after h text

variable {s t : Source} {k n : Nat}

section Cursor

variable (h : s.After k n t)
include h

/-! ## Searching -/

theorem After.hasAt (needle : List Char) (pos : Nat) :
    t.hasAt needle (n + pos) = s.hasAt needle pos := by
  induction needle generalizing pos with
  | nil => rfl
  | cons c rest ih => rw [Source.hasAt, Source.hasAt, h.src, Nat.add_assoc, ih]

theorem After.seek? (needle : List Char) (fuel pos : Nat) :
    t.seek? needle fuel (n + pos) = (s.seek? needle fuel pos).map (n + ·) := by
  induction fuel generalizing pos with
  | zero => rfl
  | succ fuel ih =>
      rw [Source.seek?, Source.seek?, h.hasAt, Nat.add_assoc, ih]
      split <;> rfl

theorem After.find? (needle : List Char) (pos stop : Nat) :
    t.find? needle (n + pos) (n + stop) = (s.find? needle pos stop).map (n + ·) := by
  rw [Source.find?, Source.find?]
  split
  next => rfl
  next =>
    have hfuel : n + stop + 1 - needle.length - (n + pos) = stop + 1 - needle.length - pos := by
      omega
    rw [hfuel, h.seek?]

theorem After.parenthesesEnd? (stop fuel depth pos : Nat) :
    t.parenthesesEnd? (n + stop) fuel depth (n + pos) =
      (s.parenthesesEnd? stop fuel depth pos).map (n + ·) := by
  induction fuel generalizing depth pos with
  | zero => rfl
  | succ fuel ih =>
      rw [Source.parenthesesEnd?, Source.parenthesesEnd?, h.src]
      simp only [Nat.add_assoc, ih, Nat.add_le_add_iff_left]
      split
      next => rfl
      next =>
        split
        case h_1 | h_2 | h_4 => rfl
        case h_3 => split <;> rfl

/-! ## The cursor -/

theorem After.skipNext (needle : List Char) (stop pos : Nat) :
    t.skipNext needle (n + stop) (n + pos) = n + s.skipNext needle stop pos := by
  rw [Source.skipNext, Source.skipNext, h.find?]
  cases s.find? needle pos stop with
  | none => rfl
  | some found => exact Nat.add_assoc _ _ _

theorem After.skipTail (stop pos : Nat) :
    t.skipTail (n + stop) (n + pos) = n + s.skipTail stop pos := by
  rw [Source.skipTail, Source.skipTail, h.find?]
  cases s.find? [']'] pos stop with
  | none => rfl
  | some close =>
      dsimp only [Option.map_some]
      rw [Nat.add_assoc, h.src]
      split
      next =>
        rw [Nat.add_sub_add_left, h.parenthesesEnd?]
        cases s.parenthesesEnd? stop (stop - (close + 1)) 0 (close + 1) <;> rfl
      next =>
        rw [Nat.add_assoc, h.find?]
        cases s.find? [']'] (close + 1 + 1) stop <;> rfl
      next => rfl

theorem After.openAt (stop pos : Nat) (mark : List Char) :
    t.openAt (n + stop) (n + pos) mark =
      (n + (s.openAt stop pos mark).1, n + (s.openAt stop pos mark).2) := by
  rw [Source.openAt, Source.openAt, h.find?]
  cases s.find? mark pos stop with
  | none => rfl
  | some found => exact congrArg (Prod.mk _) (Nat.add_assoc _ _ _)

theorem After.span (start stop : Nat) :
    t.index.span (n + start) (n + stop) = (s.index.span start stop).after k n := by
  rw [LineIndex.span, h.point, h.point]
  rfl

/-! ## Content -/

theorem After.placeLeaf (stop pos : Nat) (kind : NodeKind) (value : Option String)
    (needle : List Char) : t.placeLeaf (n + stop) (n + pos) kind value needle =
      ((s.placeLeaf stop pos kind value needle).1.after k n,
        n + (s.placeLeaf stop pos kind value needle).2) := by
  rw [Source.placeLeaf, Source.placeLeaf, h.find?]
  cases s.find? needle pos stop with
  | none =>
      dsimp only [Option.map_none]
      rw [h.span]
      rfl
  | some found =>
      dsimp only [Option.map_some]
      rw [Nat.add_assoc, h.span]
      rfl

theorem After.placeCode (stop pos : Nat) (mark content : List Char) :
    t.placeCode (n + stop) (n + pos) mark content =
      ((s.placeCode stop pos mark content).1.after k n,
        n + (s.placeCode stop pos mark content).2) := by
  rw [Source.placeCode, Source.placeCode, h.find?]
  cases s.find? mark pos stop with
  | none => exact h.placeLeaf stop pos .inlineCode _ content
  | some start =>
      dsimp only [Option.map_some]
      rw [Nat.add_assoc, h.skipNext, h.skipNext, h.span]
      rfl

end Cursor

mutual

theorem After.placeInline (h : s.After k n t) (stop : Nat) : ∀ (piece : Inline) (pos : Nat),
    t.placeInline (n + stop) (n + pos) piece =
      ((s.placeInline stop pos piece).1.after k n, n + (s.placeInline stop pos piece).2)
  | .text content, pos => h.placeLeaf stop pos ..
  | .html content, pos => h.placeLeaf stop pos ..
  | .lineBreak, pos => h.placeLeaf stop pos ..
  | .code mark content, pos => h.placeCode stop pos mark content
  | .emphasis strong mark children, pos => by
      rw [Source.placeInline, Source.placeInline, h.openAt]
      dsimp only
      rw [h.placeInlines stop children]
      dsimp only
      rw [h.skipNext, h.span]
      rfl
  | .link automatic url title children, pos => by
      rw [Source.placeInline, Source.placeInline, h.openAt]
      dsimp only
      rw [h.placeInlines stop children]
      cases automatic with
      | false =>
          dsimp only
          rw [if_neg Bool.false_ne_true, if_neg Bool.false_ne_true, h.skipTail, h.span]
          rfl
      | true =>
          dsimp only
          rw [if_pos rfl, if_pos rfl, h.skipNext, h.span]
          rfl
  | .image url title description, pos => by
      rw [Source.placeInline, Source.placeInline, h.openAt]
      dsimp only
      rw [h.skipTail, h.span]
      rfl

theorem After.placeInlines (h : s.After k n t) (stop : Nat) :
    ∀ (content : List Inline) (pos : Nat), t.placeInlines (n + stop) (n + pos) content =
      (Node.afterAll k n (s.placeInlines stop pos content).1,
        n + (s.placeInlines stop pos content).2)
  | [], _ => rfl
  | piece :: rest, pos => by
      rw [Source.placeInlines, Source.placeInlines, h.placeInline stop piece]
      dsimp only
      rw [h.placeInlines stop rest]
      rfl

end

/-! ## Blocks -/

theorem After.skipWhile (h : s.After k n t) (accepts : Char → Bool) (pos stop : Nat) :
    Markdown.skipWhile accepts t.src (n + pos) (n + stop) =
      n + Markdown.skipWhile accepts s.src pos stop := by
  rw [Markdown.skipWhile, Markdown.skipWhile, Nat.add_sub_add_left]
  induction stop - pos generalizing pos with
  | zero => rfl
  | succ fuel ih =>
      rw [skipWhileFor, skipWhileFor, h.src, Nat.add_assoc, ih]
      split
      next => split <;> rfl
      next => rfl

theorem After.blockSpan (h : s.After k n t) (lines : LineRange) :
    t.blockSpan (lines.after k) = (s.blockSpan lines).after k n := by
  obtain ⟨first, stop⟩ := lines
  have hlast : max (k + stop) (k + first + 1) = k + (max stop (first + 1) - 1 + 1) := by omega
  have hlast' : max stop (first + 1) = max stop (first + 1) - 1 + 1 := by omega
  rw [Source.blockSpan, Source.blockSpan]
  dsimp only [LineRange.after]
  rw [hlast, Nat.add_assoc, h.lineStart, h.lineEnd, h.lineEnd, h.skipWhile, h.span, ← hlast']

theorem After.placeContent (h : s.After k n t) (span : Span) (content : List Inline) :
    t.placeContent (span.after k n) content = Node.afterAll k n (s.placeContent span content) := by
  rw [Source.placeContent, Source.placeContent]
  dsimp only [Span.after, Text.Point.after]
  rw [Nat.add_max_add_left, h.placeInlines]

mutual

/-- Blocks some lines further down are placed some lines and characters further on. -/
theorem After.placeBlock (h : s.After k n t) : ∀ b : Block (List Inline),
    t.placeBlock (b.after k) = (s.placeBlock b).after k n
  | .paragraph lines content => by
      rw [Block.after, Source.placeBlock, Source.placeBlock, h.blockSpan, h.placeContent]
      rfl
  | .heading lines depth content => by
      rw [Block.after, Source.placeBlock, Source.placeBlock, h.blockSpan, h.placeContent]
      rfl
  | .quote lines children => by
      rw [Block.after, Source.placeBlock, Source.placeBlock, h.blockSpan, h.placeBlocks children]
      rfl
  | .list lines items => by
      rw [Block.after, Source.placeBlock, Source.placeBlock, h.blockSpan, h.placeBlocks items]
      rfl
  | .item lines children => by
      rw [Block.after, Source.placeBlock, Source.placeBlock, h.blockSpan, h.placeBlocks children]
      rfl
  | .code lines content => by
      rw [Block.after, Source.placeBlock, Source.placeBlock, h.blockSpan]
      rfl
  | .html lines content => by
      rw [Block.after, Source.placeBlock, Source.placeBlock, h.blockSpan]
      rfl
  | .thematicBreak lines => by
      rw [Block.after, Source.placeBlock, Source.placeBlock, h.blockSpan]
      rfl

theorem After.placeBlocks (h : s.After k n t) : ∀ blocks : List (Block (List Inline)),
    t.placeBlocks (Block.afterAll k blocks) = Node.afterAll k n (s.placeBlocks blocks)
  | [] => rfl
  | b :: rest => by
      rw [Block.afterAll, Source.placeBlocks, Source.placeBlocks, h.placeBlock b,
        h.placeBlocks rest]
      rfl

end

/-! ## Every node has a place -/

theorem exists_span_content (span : Span) (content : List Inline) {n : Node}
    (hn : n ∈ Node.walkAll (s.placeContent span content)) :
    ∃ start stop : Nat, n.span = some (s.index.span start stop) := by
  have hplaced := (placed_inlines (s := s) content (Nat.le_max_right _ _)).1.of_mem_walkAll hn
  obtain ⟨kind, span, value, url, title, depth, children⟩ := n
  obtain ⟨start, stop, hspan, -⟩ := hplaced
  exact ⟨start, stop, hspan⟩

/-- What has a place, and of which all that is inside has one. -/
theorem exists_span_mk {lines : LineRange} {kind : NodeKind} {value url title : Option String}
    {depth : Option Int} {children : List Node} {n : Node}
    (hchildren : n ∈ Node.walkAll children →
      ∃ start stop : Nat, n.span = some (s.index.span start stop))
    (hn : n ∈ (Node.mk kind (some (s.blockSpan lines)) value url title depth children).walk) :
    ∃ start stop : Nat, n.span = some (s.index.span start stop) := by
  rw [Node.walk] at hn
  rcases List.mem_cons.1 hn with rfl | hn
  · exact ⟨_, _, rfl⟩
  · exact hchildren hn

mutual

theorem exists_span_block {n : Node} : ∀ b : Block (List Inline), n ∈ (s.placeBlock b).walk →
    ∃ start stop : Nat, n.span = some (s.index.span start stop)
  | .paragraph _ content => exists_span_mk (exists_span_content _ content)
  | .heading _ _ content => exists_span_mk (exists_span_content _ content)
  | .quote _ children => exists_span_mk (exists_span_blocks children)
  | .list _ items => exists_span_mk (exists_span_blocks items)
  | .item _ children => exists_span_mk (exists_span_blocks children)
  | .code .. | .html .. | .thematicBreak .. => exists_span_mk nofun

theorem exists_span_blocks {n : Node} : ∀ blocks : List (Block (List Inline)),
    n ∈ Node.walkAll (s.placeBlocks blocks) →
      ∃ start stop : Nat, n.span = some (s.index.span start stop)
  | [] => nofun
  | b :: rest => by
      intro hn
      rcases List.mem_append.1 hn with hn | hn
      · exact exists_span_block b hn
      · exact exists_span_blocks rest hn

end

end Source

end Continuity.Markdown
