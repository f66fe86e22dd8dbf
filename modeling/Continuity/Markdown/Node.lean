import Continuity.Text.Position

/-! # Documents with positions

The tree in which checks see a document: every node has a kind, and a stretch of the source where
one is known. A node's text is what a reader sees of it.
-/

namespace Continuity.Markdown

open Text (Span)

/-- The kinds of nodes. -/
inductive NodeKind where
  | root
  | paragraph
  | heading
  | quote
  | list
  | item
  | code
  | html
  | thematicBreak
  | text
  | link
  | image
  | emphasis
  | strong
  | inlineCode
  | lineBreak
  /-- A kind that reading Markdown does not produce. -/
  | other (name : String)
  deriving Repr, DecidableEq, Inhabited

/-- The kinds that reading Markdown produces, with their names. -/
def NodeKind.named : List (String × NodeKind) := [
  ("root", .root), ("paragraph", .paragraph), ("heading", .heading), ("blockquote", .quote),
  ("list", .list), ("listItem", .item), ("code", .code), ("html", .html),
  ("thematicBreak", .thematicBreak), ("text", .text), ("link", .link), ("image", .image),
  ("emphasis", .emphasis), ("strong", .strong), ("inlineCode", .inlineCode),
  ("break", .lineBreak)]

/-- The name of a kind. -/
def NodeKind.name : NodeKind → String
  | .other name => name
  | kind => ((named.find? (·.2 == kind)).map (·.1)).getD ""

/-- The kind with a name. -/
def NodeKind.ofName (name : String) : NodeKind := (named.lookup name).getD (.other name)

/-- A node of a document. -/
inductive Node where
  | mk (kind : NodeKind) (span : Option Span) (value url title : Option String)
    (depth : Option Int) (children : List Node)
  deriving Inhabited

namespace Node

/-- The kind of a node. -/
def kind : Node → NodeKind
  | .mk k .. => k

/-- Where a node stands. -/
def span : Node → Option Span
  | .mk _ s .. => s

/-- The text of a node that has one of its own. -/
def value : Node → Option String
  | .mk _ _ v .. => v

/-- Where a link or picture leads. -/
def url : Node → Option String
  | .mk _ _ _ u .. => u

/-- The title of a link or picture. -/
def title : Node → Option String
  | .mk _ _ _ _ t .. => t

/-- The depth of a heading. -/
def depth : Node → Option Int
  | .mk _ _ _ _ _ d _ => d

/-- The nodes inside a node. -/
def children : Node → List Node
  | .mk _ _ _ _ _ _ c => c

mutual

/-- A node and all nodes inside it, parents first. -/
def walk : Node → List Node
  | .mk k s v u t d cs => .mk k s v u t d cs :: walkAll cs

/-- The nodes of a sequence and all nodes inside them. -/
def walkAll : List Node → List Node
  | [] => []
  | n :: rest => walk n ++ walkAll rest

end

mutual

/-- A node and all nodes inside it, each with whether a quotation is around it. -/
def walkQuoted (quoted : Bool) : Node → List (Node × Bool)
  | .mk k s v u t d cs =>
    (.mk k s v u t d cs, quoted) :: walkQuotedAll (quoted || k == .quote) cs

/-- The nodes of a sequence and all nodes inside them, each with whether a quotation is around. -/
def walkQuotedAll (quoted : Bool) : List Node → List (Node × Bool)
  | [] => []
  | n :: rest => walkQuoted quoted n ++ walkQuotedAll quoted rest

end

/-- The nodes of a kind inside a node, itself included. -/
def findAll (kind : NodeKind) (n : Node) : List Node := n.walk.filter (·.kind == kind)

mutual

/-- What a reader sees of a node; line breaks are spaces. -/
def text : Node → String
  | .mk .text _ v _ _ _ _ | .mk .inlineCode _ v _ _ _ _ | .mk .image _ v _ _ _ _ => v.getD ""
  | .mk .lineBreak .. => " "
  | .mk _ _ _ _ _ _ cs => textAll cs

/-- What a reader sees of a sequence of nodes. -/
def textAll : List Node → String
  | [] => ""
  | n :: rest => text n ++ textAll rest

end

end Node

end Continuity.Markdown
