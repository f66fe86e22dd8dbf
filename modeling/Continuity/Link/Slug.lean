import Continuity.Text.Blank
import Continuity.Text.Casing

/-! # Slugs of headings

The slug of a heading is the name by which links refer to it: its text in lowercase, spaces turned
into hyphens, and all else that is no word character left out. Within one document, a heading whose
slug has been issued before is given a number.
-/

namespace Continuity.Link

/-- A character that a slug keeps, or turns into a hyphen. -/
def isSlugChar (c : Char) : Bool := Text.isWord c || c == '-' || c == ' '

/-- The slug of a heading apart from its document. -/
def slugChars (text : List Char) : List Char :=
  ((Text.lowerChars (Text.trim text)).filter isSlugChar).map fun c => if c == ' ' then '-' else c

/-- The slug of a heading's text. -/
def slug (text : String) : String := String.ofList (slugChars text.toList)

/-- How often each slug of a document has been asked for. -/
structure Slugger where
  counts : List (String × Nat) := []
  deriving Repr, DecidableEq, Inhabited

namespace Slugger

/-- How often a slug has been asked for. -/
def count (s : Slugger) (slug : String) : Nat := (s.counts.lookup slug).getD 0

/-- Records one more request. -/
def request (s : Slugger) (slug : String) : Slugger :=
  ⟨(slug, s.count slug + 1) :: s.counts.filter (·.1 != slug)⟩

/-- Records that a slug has been issued, unless it has been asked for before. -/
def reserve (s : Slugger) (slug : String) : Slugger :=
  if s.count slug == 0 then s.request slug else s

/-- The slug that a heading is given, and what is then on record. -/
def issue (s : Slugger) (text : String) : String × Slugger :=
  let base := slug text
  let count := s.count base
  let s := s.request base
  if count == 0 then (base, s)
  else
    let numbered := base ++ "-" ++ toString count
    (numbered, s.reserve numbered)

/-- The slugs of headings in their order. -/
def issueAll (s : Slugger) : List String → List String
  | [] => []
  | text :: rest =>
    let (slug, s) := s.issue text
    slug :: s.issueAll rest

end Slugger

/-- The slugs that the headings of one document are given. -/
def slugs (headings : List String) : List String := Slugger.issueAll ⟨[]⟩ headings

end Continuity.Link
