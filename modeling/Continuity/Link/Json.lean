import Continuity.Link.Graph
import Continuity.Report.Json

/-! # Links as JSON documents -/

namespace Continuity.Link

/-- A link as a document. -/
def Record.toJson (l : Record) : Json :=
  .object [("target", .text l.target), ("text", .text l.text), ("line", .int l.line),
    ("column", .int l.column), ("end_line", .ofInt? l.endLine),
    ("end_column", .ofInt? l.endColumn)]

/-- A heading as a document. -/
def Heading.toJson (h : Heading) : Json :=
  .object [("text", .text h.text), ("depth", .int h.depth), ("slug", .text h.slug),
    ("line", .int h.line)]

/-- A page as a document. -/
def Page.toJson (p : Page) : Json :=
  .object [("path", .text p.path), ("title", .text p.title),
    ("links", .list (p.links.map Record.toJson)),
    ("headings", .list (p.headings.map Heading.toJson))]

/-- An edge as a document. -/
def Edge.toJson (e : Edge) : Json :=
  .object [("source", .text e.source), ("kind", .text e.kind.name), ("raw", .text e.raw),
    ("target", .ofText? e.target), ("fragment", .text e.fragment), ("text", .text e.text),
    ("line", .int e.line), ("column", .int e.column), ("end_line", .ofInt? e.endLine),
    ("end_column", .ofInt? e.endColumn)]

end Continuity.Link
