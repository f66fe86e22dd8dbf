/-! # Blocks and their content

A document as a tree of blocks. The leaves that hold inline content are kept apart from what that
content is: first their source text, later the content read from it. Inline content is made of runs
of text, breaks, code, links and emphasis; marks are kept where they are needed to find the
construct again in the source.
-/

namespace Continuity.Markdown

/-- A piece of inline content. -/
inductive Inline where
  | text (content : List Char)
  /-- The end of a line inside a paragraph, forced or not. -/
  | lineBreak
  /-- Code between runs of backticks. -/
  | code (mark content : List Char)
  | html (content : List Char)
  /-- Emphasis, strong when the mark is doubled. -/
  | emphasis (strong : Bool) (mark : Char) (children : List Inline)
  /-- A link; an automatic one shows its own address. -/
  | link (automatic : Bool) (url title : List Char) (children : List Inline)
  /-- A picture with the source of its description. -/
  | image (url title description : List Char)
  deriving Inhabited, Repr

/-- The lines from `first` up to `stop`, counted from zero. -/
structure LineRange where
  first : Nat
  stop : Nat
  deriving Repr, DecidableEq, Inhabited

/-- A block whose leaves hold content of type `α`. -/
inductive Block (α : Type) where
  | paragraph (lines : LineRange) (content : α)
  | heading (lines : LineRange) (depth : Nat) (content : α)
  | quote (lines : LineRange) (children : List (Block α))
  | list (lines : LineRange) (items : List (Block α))
  | item (lines : LineRange) (children : List (Block α))
  | code (lines : LineRange) (content : List Char)
  | html (lines : LineRange) (content : List Char)
  | thematicBreak (lines : LineRange)
  deriving Inhabited, Repr

namespace Block

variable {α β : Type}

/-- The lines of a block. -/
def lines : Block α → LineRange
  | .paragraph r _ | .heading r _ _ | .quote r _ | .list r _ | .item r _ | .code r _ | .html r _
  | .thematicBreak r => r

mutual

/-- The same blocks with other content in the leaves. -/
def map (f : α → β) : Block α → Block β
  | .paragraph r content => .paragraph r (f content)
  | .heading r depth content => .heading r depth (f content)
  | .quote r children => .quote r (mapAll f children)
  | .list r items => .list r (mapAll f items)
  | .item r children => .item r (mapAll f children)
  | .code r content => .code r content
  | .html r content => .html r content
  | .thematicBreak r => .thematicBreak r

/-- The same sequence of blocks with other content in the leaves. -/
def mapAll (f : α → β) : List (Block α) → List (Block β)
  | [] => []
  | b :: rest => map f b :: mapAll f rest

end

end Block

end Continuity.Markdown
