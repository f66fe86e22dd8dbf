import Continuity.Issue.Basic

/-! # The order of issues

Grave issues come first. Within a severity, issues without a file precede the others, and those go
by file, line and column; the validator, the code and the message decide what is left.
-/

namespace Continuity

/-- What an issue is placed by. -/
structure IssueRank where
  severity : Nat
  hasFile : Bool
  file : String
  line : Int
  column : Int
  validator : String
  code : String
  message : String
  deriving Repr, DecidableEq, Inhabited

namespace IssueRank

/-- Compares field by field. -/
def compare (a b : IssueRank) : Ordering :=
  (Ord.compare a.severity b.severity).then <|
  (Ord.compare a.hasFile b.hasFile).then <|
  (Ord.compare a.file b.file).then <|
  (Ord.compare a.line b.line).then <|
  (Ord.compare a.column b.column).then <|
  (Ord.compare a.validator b.validator).then <|
  (Ord.compare a.code b.code).then <|
  Ord.compare a.message b.message

end IssueRank

namespace Issue

/-- What an issue is placed by; an unknown line or column counts as zero. -/
def rank (i : Issue) : IssueRank where
  severity := 2 - i.severity.rank
  hasFile := i.file.isSome
  file := i.file.getD ""
  line := i.line.getD 0
  column := i.column.getD 0
  validator := i.validator
  code := i.code
  message := i.message

/-- One issue comes no later than another. -/
def le (a b : Issue) : Bool := (a.rank.compare b.rank).isLE

/-- Issues in their order; equal ones stay as they came. -/
def sort (issues : List Issue) : List Issue := issues.mergeSort le

end Issue

end Continuity
