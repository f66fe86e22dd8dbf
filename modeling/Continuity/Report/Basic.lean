import Continuity.Issue.Order

/-! # Reports

A report is the outcome of a run: all issues in their order, how many there are of each kind, and
whether the project passes.
-/

namespace Continuity

/-- How many issues there are, by validator, by severity and by file. -/
structure IssueCounts where
  byValidator : List (String × Nat) := []
  bySeverity : List (Severity × Nat) := Severity.all.map fun s => (s, 0)
  byFile : List (String × Nat) := []
  deriving Repr, DecidableEq, Inhabited

/-- What made a report, and when. -/
structure ReportMeta where
  version : String
  generatedAt : Option String := none
  deriving Repr, DecidableEq, Inhabited

/-- The outcome of a run. -/
structure Report where
  valid : Bool
  errors : List Issue
  warnings : List Issue
  info : List Issue
  counts : IssueCounts
  cancelled : Bool
  about : Option ReportMeta := none
  deriving Repr, DecidableEq, Inhabited

/-- Numbers of issues as a document tells them, under any names. -/
structure CountTables where
  byValidator : List (String × Int) := []
  bySeverity : List (String × Int) := Severity.all.map fun s => (s.name, 0)
  byFile : List (String × Int) := []
  deriving Repr, DecidableEq, Inhabited

/-- A report as a document tells it. -/
structure ReportDocument where
  valid : Bool := true
  errors : List Issue := []
  warnings : List Issue := []
  info : List Issue := []
  counts : CountTables := {}
  cancelled : Bool := false
  about : Option ReportMeta := none
  deriving Repr, DecidableEq, Inhabited

/-- The version of the program. -/
def programVersion : String := "0.1.0"

namespace IssueCounts

/-- One more of a name, the names being in ascending order. -/
def increment (name : String) : List (String × Nat) → List (String × Nat)
  | [] => [(name, 1)]
  | (other, n) :: rest =>
    if name == other then (other, n + 1) :: rest
    else if name < other then (name, 1) :: (other, n) :: rest
    else (other, n) :: increment name rest

/-- How often each name occurs, in ascending order of the names. -/
def tally (names : List String) : List (String × Nat) :=
  names.foldl (fun counts name => increment name counts) []

/-- The counts of some issues; those without a file count under the empty name. -/
def ofIssues (issues : List Issue) : IssueCounts where
  byValidator := tally (issues.map (·.validator))
  bySeverity := Severity.all.map fun s => (s, issues.countP (·.severity == s))
  byFile := tally (issues.map fun i => i.file.getD "")

/-- The counts as a document tells them. -/
def tables (c : IssueCounts) : CountTables where
  byValidator := c.byValidator.map fun (name, n) => (name, n)
  bySeverity := c.bySeverity.map fun (s, n) => (s.name, n)
  byFile := c.byFile.map fun (name, n) => (name, n)

end IssueCounts

namespace Report

/-- All issues, the gravest first. -/
def issues (r : Report) : List Issue := r.errors ++ r.warnings ++ r.info

/-- The number of issues. -/
def total (r : Report) : Nat := r.errors.length + r.warnings.length + r.info.length

/-- The status with which the program ends. -/
def exitCode (r : Report) : Nat := if r.cancelled then 130 else if r.valid then 0 else 1

/-- Some issue is grave enough to fail the run. -/
def fails (failOn : FailOn) (issues : List Issue) : Bool :=
  match failOn.threshold with
  | none => false
  | some threshold => issues.any (·.severity.atLeast threshold)

/-- The report on some issues. -/
def ofIssues (failOn : FailOn) (cancelled : Bool) (issues : List Issue) : Report :=
  let ordered := Issue.sort issues
  { valid := !fails failOn ordered && !cancelled
    errors := ordered.filter (·.severity == .error)
    warnings := ordered.filter (·.severity == .warning)
    info := ordered.filter (·.severity == .info)
    counts := .ofIssues ordered
    cancelled }

/-- What a document tells of the report. -/
def document (r : Report) : ReportDocument where
  valid := r.valid
  errors := r.errors
  warnings := r.warnings
  info := r.info
  counts := r.counts.tables
  cancelled := r.cancelled
  about := r.about

end Report

end Continuity
