import Continuity.Document.Basic
import Continuity.Link.Basic
import Continuity.Link.Slug

/-! # The page of a document

Links and headings are collected in the order of the document. The title is the one that the front
matter gives, or else the first heading of depth one that has a text, or else the file's name.
-/

namespace Continuity.Link

open Markdown (Node)

/-- The headings of a document with their lines, in order. -/
def headingNodes (nodes : List Node) : List (Node × Nat) :=
  nodes.filterMap fun node =>
    match node.kind, node.span with
    | .heading, some span => some (node, span.start.line)
    | _, _ => none

/-- The headings of a document. -/
def headingsOf (nodes : List Node) : List Heading :=
  let found := headingNodes nodes
  let texts := found.map fun (node, _) => Text.strip node.text
  (found.zip (texts.zip (slugs texts))).map fun ((node, line), text, slug) =>
    let depth := match node.depth with
      | none | some 0 => 1
      | some n => n
    ⟨text, depth, slug, line⟩

/-- The link that a node is, if it has a destination and a place. -/
def recordOf? (node : Node) : Option Record :=
  match node.kind, node.url, node.span with
  | .link, some url, some span =>
    some ⟨url, Text.strip node.text, span.start.line, span.start.column, some span.stop.line,
      some span.stop.column⟩
  | _, _, _ => none

/-- The title that front matter gives. -/
def titleOfMatter? (entries : List (Value × Value)) : Option String :=
  match Value.lookup (.text "title") entries with
  | some (.text s) => some s
  | some (.bool b) => some (Value.bool b).display
  | some (.int n) => some (Value.int n).display
  | some (.float x) => some (Value.float x).display
  | _ => none

/-- The title of a document with some headings. -/
def titleOf (d : Document) (headings : List Heading) : String :=
  let given := Text.strip ((titleOfMatter? d.frontMatter).getD "")
  if given.isEmpty then
    match headings.find? fun h => h.depth == 1 && !h.text.isEmpty with
    | some h => h.text
    | none => (Path.ofString d.name).stem
  else given

/-- The page of a document. -/
def Page.ofDocument (d : Document) : Page :=
  let nodes := d.root.walk
  let headings := headingsOf nodes
  ⟨d.name, titleOf d headings, nodes.filterMap recordOf?, headings⟩

end Continuity.Link
