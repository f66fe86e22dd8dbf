import Continuity.Run.Phase

/-! # Runs

A run registers the validators that are turned on, starts them, passes through the phases, and makes
a report of all issues. However it ends, every validator that has started is made to finish, the
last one first.
-/

namespace Continuity.Run

namespace Step

variable (s : Setup)

/-- Registers validators. No two may have one id, even if they are turned off. -/
def registerAll (seen : List String) : List Validator → Step Unit
  | [] => pure ()
  | v :: rest => do
    if seen.contains v.id then throw (.duplicate v.id)
    if s.config.isEnabled v.id then
      modify fun p => { p with validators := p.validators ++ [v] }
    registerAll (v.id :: seen) rest

/-- Registers the validators of the setup. -/
def register : Step Unit := do
  registerAll s [] s.validators
  enter .registered

/-- Starts a validator. -/
def startWith (v : Validator) : Step Unit := do
  if v.start.isSome then enterCall v .start
  match ← perform s v .start (v.starting (s.contextOf v)) with
  | .ok () => modify fun p => { p with started := p.started ++ [v] }
  | .error (.configuration message problems) => throw (.configuration message problems)
  | .error cause => throw (.notStarted v.id cause)

/-- Starts all validators. -/
def start : Step Unit := do
  (← get).validators.forM (startWith s)
  enter .initialized
  emit s (.runStart s.paths.length)

/-- Makes the report. -/
def report : Step Report := do
  enter .aggregating
  let p ← get
  return p.desk.collector.report s.config.failOn p.cancelled

/-- All that leads to the report. -/
def toReport : Step Report := do
  register s
  start s
  unlessCancelled s (extract s)
  unlessCancelled s (merge s)
  unlessCancelled s (validate s)
  report s

end Step

/-- The progress after a validator has been made to finish; a failure is passed over. -/
def finishWith (s : Setup) (p : Progress) (v : Validator) : Progress :=
  let p := if v.finish.isSome then p.enterCall v .finish else p
  (p.perform s v .finish (v.finishing (s.contextOf v))).2

/-- The progress after all validators that have started have been made to finish, the last one
first, and what the run has read is forgotten. -/
def finish (s : Setup) (p : Progress) : Progress :=
  let p := p.started.reverse.foldl (finishWith s) p
  { p with
    desk := { p.desk with cache := p.desk.cache.clear }
    documents := []
    parts := []
    history := p.history ++ [.finalized] }

/-- The progress after a report has been made known. -/
def complete (s : Setup) (report : Report) (p : Progress) : Progress :=
  { p with
    desk := p.desk.emit s.listener (.runComplete report)
    history := p.history ++ [.idle] }

/-- How a run has ended. -/
structure Outcome where
  result : Except RunFault Report
  progress : Progress

/-- A run. Someone may have asked for its cancellation beforehand. -/
def execute (s : Setup) (cancelRequested : Bool) : Outcome :=
  let (result, p) := (Step.toReport s).exec { desk := { cancelRequested } }
  let p := finish s p
  match result with
  | .ok report => ⟨.ok report, complete s report p⟩
  | .error fault => ⟨.error fault, p⟩

end Continuity.Run
