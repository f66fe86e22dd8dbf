import Continuity.Data.Value
import Continuity.Issue.Basic
import Continuity.Markdown.Node
import Continuity.Path
import Continuity.Text.Casing

/-! # Documents

A document is a Markdown file that has been read: its text, its front matter and the tree of its
content, placed in the text.
-/

namespace Continuity

/-- A document. -/
structure Document where
  /-- Where the file is. -/
  path : Path
  /-- How the file is called in its project. -/
  name : String
  content : List Char
  root : Markdown.Node
  frontMatter : List (Value × Value)
  index : Text.LineIndex
  /-- What is wrong with the front matter. -/
  issues : List Issue
  deriving Inhabited

namespace Document

/-- The ending of the file's name, in lowercase. -/
def suffix (d : Document) : String := Text.lower d.path.suffix

/-- An entry of the front matter. -/
def frontMatterEntry? (d : Document) (name : String) : Option Value :=
  Value.lookup (.text name) d.frontMatter

end Document

end Continuity
