import Continuity.Issue.Basic
import Continuity.Link.Graph
import Continuity.Text.Similarity

/-! # Rules for links

Links must lead somewhere, also within a document; a link's text should be the title of the document
to which it leads; and every document should be reachable.
-/

namespace Continuity.Link

/-- The name under which issues of links are reported. -/
def validatorId : String := "link-graph"

/-- Texts that refer to a document without naming it. -/
def genericTexts : List String := [
  "here", "this", "link", "click here", "this link", "this page", "see here", "read more", "more",
  "next", "previous", "back"]

/-- An issue at an edge. -/
def issueAt (code : String) (severity : Severity) (message : String) (suggestion : Option String)
    (e : Edge) : Issue :=
  { code, severity, message, validator := validatorId, file := some e.source, line := some e.line
    column := some e.column, endLine := e.endLine, endColumn := e.endColumn, suggestion }

/-- The link leads nowhere. -/
def brokenIssue? (g : Graph) (e : Edge) : Option Issue :=
  if e.kind != .broken then none
  else
    let near := match e.target with
      | some target =>
        if target.isEmpty then none
        else Text.closest? target (g.paths.mergeSort Graph.textLe)
      | none => none
    some <| issueAt "LINK001" .error ("Broken link to '" ++ e.raw ++ "'")
      (near.map fun path => "Did you mean: " ++ path ++ "?") e

/-- The document that an edge leads to, unless it is the one that it leaves. -/
def otherDocument? (g : Graph) (e : Edge) : Option Graph.Node :=
  if e.kind != .internal || e.target == some e.source then none
  else e.target.bind g.find?

/-- The folded names by which a link may call a document besides its title. -/
def fileNames (n : Graph.Node) : List String :=
  let path := Path.ofString n.path
  [Text.fold path.name, Text.fold path.stem]

/-- The link's text is like the title of the document that it leads to, but not the same. -/
def titleIssue? (g : Graph) (least : Float) (e : Edge) : Option Issue := do
  let node ← otherDocument? g e
  let text := Text.strip e.text
  let title := Text.strip node.title
  let folded := Text.fold text
  if text.isEmpty || folded == Text.fold title || genericTexts.contains folded ||
      (fileNames node).contains folded || Text.similarity folded (Text.fold title) < least then
    none
  else
    some <| issueAt "LINK002" .info
      ("Link text '" ++ text ++ "' does not match the title of " ++ node.path ++ " ('" ++ title ++
        "')")
      (some ("Use '" ++ title ++ "' as the link text")) e

/-- The place within a document that a link names does not exist. -/
def anchorIssue? (g : Graph) (e : Edge) : Option Issue := do
  let leads := e.kind == .internal || e.kind == .anchor
  let node ← if leads && !e.fragment.isEmpty then e.target.bind g.find? else none
  let fragment := Text.lower e.fragment
  if node.slugs.contains fragment then none
  else
    let place := if e.target == some e.source then "this file" else node.path
    some <| issueAt "LINK004" .warning ("Anchor '#" ++ e.fragment ++ "' not found in " ++ place)
      ((Text.closest? fragment node.slugs).map fun slug => "Did you mean: #" ++ slug ++ "?") e

/-- The issues of an edge. -/
def edgeIssues (g : Graph) (least : Float) (e : Edge) : List Issue :=
  (brokenIssue? g e).toList ++ (titleIssue? g least e).toList ++ (anchorIssue? g e).toList

/-- The issues of the links of a document. -/
def fileIssues (g : Graph) (least : Float) (path : String) : List Issue :=
  (g.edgesFrom path).flatMap (edgeIssues g least)

/-- An issue of a document as a whole. -/
def issueOf (code : String) (severity : Severity) (message : String) (suggestion : Option String)
    (path : String) : Issue :=
  { code, severity, message, validator := validatorId, file := some path, suggestion }

/-- The issues of documents that no root leads to. -/
def orphanIssues (g : Graph) (entryPoints : List String) : List Issue :=
  (g.orphans entryPoints).map <| issueOf "LINK003" .warning
    "Document is not reachable from any README or entry point"
    (some "Link to it from another document or add it to linkValidator.entryPoints")

/-- The issues of documents that link to each other. -/
def mutualIssues (g : Graph) : List Issue :=
  g.mutualPairs.map fun (a, b) =>
    issueOf "LINK005" .info (a ++ " and " ++ b ++ " link to each other") none a

end Continuity.Link
