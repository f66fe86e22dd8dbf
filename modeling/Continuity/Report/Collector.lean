import Continuity.Report.Basic

/-! # Collecting issues

A collector gathers the issues of a run as they are found. What a validator has already recorded
is not recorded again.
-/

namespace Continuity

/-- The issues recorded so far, in order, each with the validator that it was recorded for. -/
structure Collector where
  recorded : List (String × Issue) := []
  deriving Repr, DecidableEq, Inhabited

namespace Collector

/-- The issues recorded so far. -/
def issues (c : Collector) : List Issue := c.recorded.map (·.2)

/-- An issue that is the same has been recorded for the validator. -/
def holds (c : Collector) (validator : String) (issue : Issue) : Bool :=
  c.recorded.any fun (v, i) => v == validator && i.key == issue.key

/-- Records an issue for a validator, unless it is recorded already. -/
def add (c : Collector) (validator : String) (issue : Issue) : Collector :=
  if c.holds validator issue then c else ⟨c.recorded ++ [(validator, issue)]⟩

/-- Records issues in their order. -/
def addAll (c : Collector) (validator : String) (issues : List Issue) : Collector :=
  issues.foldl (fun c i => c.add validator i) c

/-- The report on what has been recorded. -/
def report (c : Collector) (failOn : FailOn) (cancelled : Bool) : Report :=
  .ofIssues failOn cancelled c.issues

end Collector

end Continuity
