import Continuity.Data.Schema

/-! # Links and headings of a document

What one document contributes to the graph of links: the links that leave it, and the headings at
which links can arrive.
-/

namespace Continuity.Link

open Schema

/-- A link as it is written. -/
structure Record where
  target : String
  text : String
  line : Int
  column : Int
  endLine : Option Int
  endColumn : Option Int
  deriving Repr, DecidableEq, Inhabited

/-- A heading with the slug by which links refer to it. -/
structure Heading where
  text : String
  depth : Int
  slug : String
  line : Int
  deriving Repr, DecidableEq, Inhabited

/-- The links and headings of a document. -/
structure Page where
  path : String
  title : String
  links : List Record
  headings : List Heading
  deriving Repr, DecidableEq, Inhabited

/-- The fields of a link. -/
def Record.names : Names :=
  ⟨["target", "text", "line", "column", "end_line", "end_column"], false⟩

/-- Reads a link. -/
def Record.read : Reader Record :=
  Schema.fields Record.names .ignored fun es =>
    Record.mk <$> Record.names.required es "target" Schema.text
      <*> Record.names.required es "text" Schema.text
      <*> Record.names.required es "line" whole
      <*> Record.names.required es "column" whole
      <*> Record.names.fieldOr es "end_line" (optional whole) none
      <*> Record.names.fieldOr es "end_column" (optional whole) none

/-- The fields of a heading. -/
def Heading.names : Names := ⟨["text", "depth", "slug", "line"], false⟩

/-- Reads a heading. -/
def Heading.read : Reader Heading :=
  Schema.fields Heading.names .ignored fun es =>
    Heading.mk <$> Heading.names.required es "text" Schema.text
      <*> Heading.names.required es "depth" whole
      <*> Heading.names.required es "slug" Schema.text
      <*> Heading.names.required es "line" whole

/-- The fields of a page. -/
def Page.names : Names := ⟨["path", "title", "links", "headings"], false⟩

/-- Reads a page. -/
def Page.read : Reader Page :=
  Schema.fields Page.names .ignored fun es =>
    Page.mk <$> Page.names.required es "path" Schema.text
      <*> Page.names.required es "title" Schema.text
      <*> Page.names.fieldOr es "links" (Schema.list Record.read) []
      <*> Page.names.fieldOr es "headings" (Schema.list Heading.read) []

end Continuity.Link
