import Continuity.Data.Schema

/-! # Options of the link rules -/

namespace Continuity.Link

open Schema

/-- How links are checked. -/
structure Options where
  /-- Documents where reading may begin, besides those that stand for their directories. -/
  entryPoints : List String := []
  checkOrphans : Bool := true
  /-- Addresses outside the project are taken as they are. -/
  skipExternal : Bool := true
  /-- The least similarity to a title at which a link's text counts as meant to be that title. -/
  titleSimilarity : Float := 0.6
  reportMutual : Bool := false
  deriving Inhabited

namespace Options

/-- The names of the options. -/
def names : Names where
  fields := ["entry_points", "check_orphans", "skip_external", "title_similarity",
    "report_bidirectional"]
  camel := true

/-- Reads the options. -/
def read : Reader Options :=
  Schema.fields names .refused fun es =>
    Options.mk <$> names.fieldOr es "entry_points" (Schema.list Schema.text) []
      <*> names.fieldOr es "check_orphans" truth true
      <*> names.fieldOr es "skip_external" truth true
      <*> names.fieldOr es "title_similarity" (numberBetween 0.0 1.0) 0.6
      <*> names.fieldOr es "report_bidirectional" truth false

end Options

end Continuity.Link
